import Mathlib.Data.List.Forall2
import Swimlane.Flow.Order

/-!
# Sweeps

The ordering sweeps move nodes within their columns only.

- `Digraph.Reordered`: the same columns, each in an order of its own.
- `Digraph.ordered_reordered`: what any number of sweeps makes of some columns.
-/

namespace Swimlane.Digraph

variable {V : Type}

/-- The same columns, each in an order of its own. -/
def Reordered (columns columns' : List (List V)) : Prop := List.Forall₂ List.Perm columns columns'

theorem Reordered.refl (columns : List (List V)) : Reordered columns columns :=
  List.forall₂_same.2 fun column _ => .refl column

theorem Reordered.trans {a b c : List (List V)} (hab : Reordered a b) (hbc : Reordered b c) :
    Reordered a c := by
  induction hab generalizing c with
  | nil => exact hbc
  | cons h _ ih =>
    cases hbc with
    | cons h' hrest => exact .cons (h.trans h') (ih hrest)

/-- All columns together hold the same nodes. -/
theorem Reordered.flatten_perm {a b : List (List V)} (h : Reordered a b) :
    a.flatten.Perm b.flatten := by
  induction h with
  | nil => exact .nil
  | cons h _ ih => exact h.append ih

/-- A column of a single node has one order only. -/
theorem Reordered.eq_of_length_le_one {a b : List (List V)} (h : Reordered a b)
    (hlength : ∀ column ∈ a, column.length ≤ 1) : a = b := by
  induction h with
  | nil => rfl
  | @cons column column' _ _ hperm _ ih =>
    have hcolumn : column = column' := by
      have hle := hlength column (.head _)
      match column, hle, hperm with
      | [], _, hperm => exact (List.nil_perm.1 hperm).symm
      | [v], _, hperm => exact List.singleton_perm.1 hperm
    rw [hcolumn, ih fun c hc => hlength c (.tail _ hc)]

/-- Reordering one column after another, each in view of all of them, reorders the columns. -/
theorem reordered_foldl {ι : Type} {f : List (List V) → ι → List (List V)}
    (h : ∀ columns i, Reordered columns (f columns i)) (columns : List (List V)) (is : List ι) :
    Reordered columns (is.foldl f columns) := by
  induction is generalizing columns with
  | nil => exact .refl columns
  | cons i is ih => exact (h columns i).trans (ih _)

theorem reordered_modify {f : List V → List V} (h : ∀ column, List.Perm column (f column))
    (columns : List (List V)) (i : Nat) : Reordered columns (columns.modify i f) := by
  induction columns generalizing i with
  | nil => rw [List.modify_nil]; exact .nil
  | cons column columns ih =>
    cases i with
    | zero => exact .cons (h column) (Reordered.refl columns)
    | succ i => exact .cons (.refl column) (ih i)

variable [DecidableEq V]

theorem sortColumn_perm (columns : List (List V)) (neighbours : V → List V) (column : List V) :
    (sortColumn columns neighbours column).Perm column := by
  unfold sortColumn
  refine ((List.mergeSort_perm _ _).map _).trans (.of_eq ?_)
  rw [List.map_map]
  exact List.zipIdx_map_fst 0 column

theorem sortAt_reordered (neighbours : V → List V) (columns : List (List V)) (i : Nat) :
    Reordered columns (sortAt neighbours columns i) :=
  reordered_modify (fun column => (sortColumn_perm columns neighbours column).symm) columns i

theorem sweep_reordered (g : Digraph V) (forwards : Bool) (columns : List (List V)) :
    Reordered columns (g.sweep forwards columns) := by
  unfold sweep
  split
  · exact reordered_foldl (sortAt_reordered g.previous) _ _
  · exact reordered_foldl (sortAt_reordered g.next) _ _

/-- Sweeps move nodes within their columns only. -/
theorem ordered_reordered (g : Digraph V) (sweeps : Nat) (columns : List (List V)) :
    Reordered columns (g.ordered sweeps columns) :=
  reordered_foldl (fun columns s => g.sweep_reordered (decide (s % 2 = 0)) columns) columns
    (List.range sweeps)

end Swimlane.Digraph
