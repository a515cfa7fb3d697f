/-!
# Lengths and positions

The arithmetic of the layout. Everything that computes coordinates is written over this interface;
programs run it on doubles, and exact arithmetic serves to reason about it.

- `Scalar`: sums, differences, whole multiples, halves and comparisons.
- `Scalar.larger`, `Scalar.smaller`: of two lengths, the first unless the second is beyond it.
- `Scalar.largest`, `Scalar.smallest`: the same over a list, from left to right.
- `Scalar.total`: the sum of a list from left to right, starting at zero.
-/

namespace Swimlane

/-- Numbers that lengths and positions can be computed with. -/
class Scalar (α : Type) extends Add α, Sub α where
  /-- A whole number of units. -/
  whole : Nat → α
  /-- A whole multiple. -/
  times : α → Nat → α
  /-- A half. -/
  half : α → α
  /-- Whether the first is less than the second. -/
  below : α → α → Bool
  /-- Whether the first is less than or equal to the second. -/
  atMost : α → α → Bool

namespace Scalar

variable {α : Type} [Scalar α]

/-- The second if it is greater than the first, and the first otherwise. -/
def larger (a b : α) : α := if below a b then b else a

/-- The second if it is less than the first, and the first otherwise. -/
def smaller (a b : α) : α := if below b a then b else a

/-- The greatest item of a list, the first of several; a default if there is none. -/
def largest (default : α) : List α → α
  | [] => default
  | a :: rest => rest.foldl larger a

/-- The least item of a list, the first of several; a default if there is none. -/
def smallest (default : α) : List α → α
  | [] => default
  | a :: rest => rest.foldl smaller a

/-- The sum of a list, from left to right. -/
def total (items : List α) : α := items.foldl (· + ·) (whole 0)

end Scalar

/-- Doubles, with their rounding, infinities and undefined results. -/
instance : Scalar Float where
  whole := Float.ofNat
  times a n := a * Float.ofNat n
  half a := a / 2.0
  below a b := a < b
  atMost a b := a ≤ b

/-- Rationals, without any rounding. -/
instance : Scalar Rat where
  whole n := n
  times a n := a * n
  half a := a / 2
  below a b := a < b
  atMost a b := a ≤ b

/-- A width and a height. -/
structure Size (α : Type) where
  width : α
  height : α
  deriving DecidableEq, Repr

/-- A place in the plane. -/
structure Point (α : Type) where
  x : α
  y : α
  deriving DecidableEq, Repr

end Swimlane
