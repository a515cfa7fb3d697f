import Mathlib.Algebra.BigOperators.Group.List.Basic
import Mathlib.Algebra.Order.Field.Rat
import Mathlib.Tactic.Linarith
import Swimlane.Scalar

/-!
# Exact lengths

Over the rationals, the greatest and the least item of a list and its sum are what their names say.

- `Scalar.rel_foldl`: what a fold comes to is beyond everything that it has met.
- `Scalar.le_largest`, `Scalar.smallest_le`: no item is greater, and none is less.
- `Scalar.largest_mem`, `Scalar.smallest_mem`: they are among the items.
- `Scalar.largest_congr`: the order and the number of the items do not matter.
- `Scalar.largest_map_add`, `Scalar.smallest_map_add`: they move along with the items.
- `Scalar.largest_nonneg`: the greatest is not negative where no item is.
- `Scalar.total_eq_sum`: the sum of a list.
-/

namespace Swimlane.Scalar

@[simp] theorem whole_eq (n : Nat) : (whole n : Rat) = n := rfl

@[simp] theorem half_eq (a : Rat) : half a = a / 2 := rfl

theorem larger_eq_max (a b : Rat) : larger a b = max a b := by
  by_cases h : a < b
  · rw [larger, max_eq_right h.le]
    exact if_pos (decide_eq_true h)
  · rw [larger, max_eq_left (not_lt.1 h)]
    exact if_neg fun hb => h (of_decide_eq_true hb)

theorem smaller_eq_min (a b : Rat) : smaller a b = min a b := by
  by_cases h : b < a
  · rw [smaller, min_eq_right h.le]
    exact if_pos (decide_eq_true h)
  · rw [smaller, min_eq_left (not_lt.1 h)]
    exact if_neg fun hb => h (of_decide_eq_true hb)

/-- A fold that goes beyond both of what it joins comes to something beyond everything it has
met. -/
theorem rel_foldl {r : Rat → Rat → Prop} [Std.Refl r] [IsTrans Rat r] {f : Rat → Rat → Rat}
    (hleft : ∀ a b, r a (f a b)) (hright : ∀ a b, r b (f a b)) (items : List Rat) (a : Rat) :
    r a (items.foldl f a) ∧ ∀ b ∈ items, r b (items.foldl f a) := by
  induction items generalizing a with
  | nil => exact ⟨refl_of r a, fun _ hb => nomatch hb⟩
  | cons c items ih =>
    obtain ⟨hstart, hmet⟩ := ih (f a c)
    refine ⟨trans_of r (hleft a c) hstart, fun b hb => ?_⟩
    rcases List.mem_cons.1 hb with rfl | hb
    · exact trans_of r (hright a b) hstart
    · exact hmet b hb

/-- No item is greater than the greatest. -/
theorem le_largest {items : List Rat} {a : Rat} (h : a ∈ items) (default : Rat) :
    a ≤ largest default items := by
  have hleft (a b : Rat) : a ≤ larger a b := by
    rw [larger_eq_max]
    exact le_max_left a b
  have hright (a b : Rat) : b ≤ larger a b := by
    rw [larger_eq_max]
    exact le_max_right a b
  cases items with
  | nil => cases h
  | cons b items =>
    obtain ⟨hstart, hmet⟩ := rel_foldl (r := (· ≤ ·)) hleft hright items b
    rcases List.mem_cons.1 h with rfl | h
    · exact hstart
    · exact hmet a h

/-- No item is less than the least. -/
theorem smallest_le {items : List Rat} {a : Rat} (h : a ∈ items) (default : Rat) :
    smallest default items ≤ a := by
  have hleft (a b : Rat) : a ≥ smaller a b := by
    rw [smaller_eq_min]
    exact min_le_left a b
  have hright (a b : Rat) : b ≥ smaller a b := by
    rw [smaller_eq_min]
    exact min_le_right a b
  cases items with
  | nil => cases h
  | cons b items =>
    obtain ⟨hstart, hmet⟩ := rel_foldl (r := (· ≥ ·)) hleft hright items b
    rcases List.mem_cons.1 h with rfl | h
    · exact hstart
    · exact hmet a h

/-- A fold that chooses one of what it joins comes to one of the items. -/
theorem foldl_mem {f : Rat → Rat → Rat} (hf : ∀ a b, f a b = a ∨ f a b = b) (items : List Rat)
    (a : Rat) : items.foldl f a ∈ a :: items := by
  induction items generalizing a with
  | nil => exact .head _
  | cons b items ih =>
    rw [List.foldl_cons]
    rcases List.mem_cons.1 (ih (f a b)) with heq | hmem
    · rw [heq]
      rcases hf a b with h | h
      · rw [h]
        exact .head _
      · rw [h]
        exact .tail _ (.head _)
    · exact .tail _ (.tail _ hmem)

/-- The greatest is one of the items. -/
theorem largest_mem {items : List Rat} (h : items ≠ []) (default : Rat) :
    largest default items ∈ items := by
  have hlarger (a b : Rat) : larger a b = a ∨ larger a b = b := by
    rw [larger_eq_max]
    exact max_choice a b
  obtain ⟨a, items, rfl⟩ := List.exists_cons_of_ne_nil h
  exact foldl_mem hlarger items a

/-- The least is one of the items. -/
theorem smallest_mem {items : List Rat} (h : items ≠ []) (default : Rat) :
    smallest default items ∈ items := by
  have hsmaller (a b : Rat) : smaller a b = a ∨ smaller a b = b := by
    rw [smaller_eq_min]
    exact min_choice a b
  obtain ⟨a, items, rfl⟩ := List.exists_cons_of_ne_nil h
  exact foldl_mem hsmaller items a

theorem largest_nonneg {items : List Rat} (h : ∀ a ∈ items, 0 ≤ a) :
    0 ≤ largest (whole 0) items := by
  cases items with
  | nil => exact le_rfl
  | cons a items => exact (h a (.head _)).trans (le_largest (.head _) _)

/-- The least item is not greater than the greatest. -/
theorem smallest_le_largest (items : List Rat) :
    smallest (whole 0) items ≤ largest (whole 0) items := by
  cases items with
  | nil => exact le_rfl
  | cons a items => exact (smallest_le (.head _) _).trans (le_largest (.head _) _)

/-- The greatest depends on what items there are, in whatever order and number. -/
theorem largest_congr {items items' : List Rat} (h : ∀ a, a ∈ items ↔ a ∈ items') (default : Rat) :
    largest default items = largest default items' := by
  by_cases hnil : items = []
  · obtain rfl : items' = [] :=
      List.eq_nil_iff_forall_not_mem.2 fun a ha => by simpa [hnil] using (h a).2 ha
    rw [hnil]
  · have hnil' : items' ≠ [] :=
      List.ne_nil_of_mem ((h _).1 (largest_mem hnil default))
    exact le_antisymm (le_largest ((h _).1 (largest_mem hnil default)) default)
      (le_largest ((h _).2 (largest_mem hnil' default)) default)

/-- A fold that moves along with what it joins moves along with its items. -/
theorem foldl_map_add {f : Rat → Rat → Rat} {c : Rat}
    (hf : ∀ a b, f (a + c) (b + c) = f a b + c) (items : List Rat) (a : Rat) :
    (items.map (· + c)).foldl f (a + c) = items.foldl f a + c := by
  induction items generalizing a with
  | nil => rfl
  | cons b items ih => rw [List.map_cons, List.foldl_cons, hf, ih, List.foldl_cons]

/-- The greatest moves along with the items. -/
theorem largest_map_add {items : List Rat} (h : items ≠ []) (default c : Rat) :
    largest default (items.map (· + c)) = largest default items + c := by
  obtain ⟨a, items, rfl⟩ := List.exists_cons_of_ne_nil h
  refine foldl_map_add (fun a b => ?_) items a
  rw [larger_eq_max, larger_eq_max, max_add_add_right]

/-- The least moves along with the items. -/
theorem smallest_map_add {items : List Rat} (h : items ≠ []) (default c : Rat) :
    smallest default (items.map (· + c)) = smallest default items + c := by
  obtain ⟨a, items, rfl⟩ := List.exists_cons_of_ne_nil h
  refine foldl_map_add (fun a b => ?_) items a
  rw [smaller_eq_min, smaller_eq_min, min_add_add_right]

theorem total_eq_sum (items : List Rat) : total items = items.sum := List.sum_eq_foldl.symm

end Swimlane.Scalar
