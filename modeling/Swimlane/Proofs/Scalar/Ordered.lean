import Swimlane.Proofs.Scalar.Exact

/-!
# Arithmetic that keeps an order

What can be said about lengths without exact sums: it is enough that adding something that is not
negative does not lead back. Rounding to a nearest value keeps this, and so do infinities.

- `Scalar.Ordered`: the laws.
- `Scalar.ordered_rat`: rationals obey them.
- `Scalar.Ordered.larger_nonneg`, `Scalar.Ordered.total_nonneg`: lengths that are not negative.
-/

namespace Swimlane.Scalar

/-- Comparisons that go together, and sums that do not lead back. -/
structure Ordered (α : Type) [Scalar α] : Prop where
  refl_right : ∀ {a b : α}, atMost a b = true → atMost b b = true
  trans : ∀ {a b c : α}, atMost a b = true → atMost b c = true → atMost a c = true
  atMost_of_below : ∀ {a b : α}, below a b = true → atMost a b = true
  not_atMost_of_below : ∀ {a b : α}, below a b = true → ¬ atMost b a = true
  whole_nonneg : ∀ n : Nat, atMost (whole 0) (whole n : α) = true
  atMost_add : ∀ {a b : α}, atMost (whole 0) a = true → atMost (whole 0) b = true →
    atMost a (a + b) = true

/-- Rationals obey the laws. -/
theorem ordered_rat : Ordered Rat where
  refl_right _ := decide_eq_true le_rfl
  trans hab hbc := decide_eq_true (le_trans (of_decide_eq_true hab) (of_decide_eq_true hbc))
  atMost_of_below h := decide_eq_true (le_of_lt (of_decide_eq_true h))
  not_atMost_of_below h hle := absurd (of_decide_eq_true h) (not_lt.2 (of_decide_eq_true hle))
  whole_nonneg n := decide_eq_true (Nat.cast_le.2 n.zero_le)
  atMost_add _ hb := decide_eq_true (le_add_of_nonneg_right (of_decide_eq_true hb))

namespace Ordered

variable {α : Type} [Scalar α] (h : Ordered α)

include h

theorem add_nonneg {a b : α} (ha : atMost (whole 0) a = true) (hb : atMost (whole 0) b = true) :
    atMost (whole 0) (a + b) = true :=
  h.trans ha (h.atMost_add ha hb)

/-- The larger of two lengths is not less than the first. -/
theorem larger_nonneg {a : α} (ha : atMost (whole 0) a = true) (b : α) :
    atMost (whole 0) (larger a b) = true := by
  unfold larger
  by_cases hb : below a b = true
  · rw [if_pos hb]
    exact h.trans ha (h.atMost_of_below hb)
  · rw [if_neg hb]
    exact ha

theorem total_nonneg {items : List α} (hitems : ∀ a ∈ items, atMost (whole 0) a = true) :
    atMost (whole 0) (total items) = true := by
  suffices ∀ start : α, atMost (whole 0) start = true →
      atMost (whole 0) (items.foldl (· + ·) start) = true from this _ (h.whole_nonneg 0)
  induction items with
  | nil => exact fun _ hstart => hstart
  | cons a items ih =>
    intro start hstart
    exact ih (fun b hb => hitems b (.tail _ hb)) _ (h.add_nonneg hstart (hitems a (.head _)))

end Ordered

end Swimlane.Scalar
