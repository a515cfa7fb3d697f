/-!
# Sets of characters given by ranges

A property of characters is stored as an ascending list of closed ranges of code points.

- `inRanges`: whether a code point lies in one of the ranges; the search stops at the first range
  that begins above it.
- `inRanges_eq_false_of_lt`: a code point below every range is in none of them.
-/

namespace Swimlane.Text

/-- Whether `n` lies in one of the ranges, which ascend. -/
def inRanges (n : Nat) : List (Nat × Nat) → Bool
  | [] => false
  | (lo, hi) :: rest => if n < lo then false else if n ≤ hi then true else inRanges n rest

/-- A code point below the first range is in none of them. -/
theorem inRanges_eq_false_of_lt {n lo hi : Nat} {rest : List (Nat × Nat)} (h : n < lo) :
    inRanges n ((lo, hi) :: rest) = false := by
  simp [inRanges, h]

end Swimlane.Text
