import Swimlane.Decimal.Shortest
import Swimlane.Proofs.Scalar.Ordered

/-!
# Numbers that need not be finite

Doubles hold two infinities and results that are no number. Here they stand beside the rationals:
the arithmetic is that of doubles without any rounding, so that whatever is not finite has come
from something that is not.

- `Extended`: rationals, the two infinities, and what is no number.
- `Extended.ofDouble`: the number that a double is.
- `Extended.ordered`: comparisons and sums go together.
- `Extended.isFinite_add_iff` and the like: a sum, a difference, a multiple or a half is finite if
  and only if what it is made of is.
- `Extended.isFinite_larger_iff`: the same for the larger of two that are bounded below.
-/

namespace Swimlane

/-- A rational, an infinity, or what is no number. -/
inductive Extended where
  | finite (q : Rat)
  | infinite (negative : Bool)
  | undefined
  deriving DecidableEq, Repr

namespace Extended

/-- Whether a number is finite. -/
def isFinite : Extended → Bool
  | finite _ => true
  | _ => false

/-- The number with the other sign. -/
def negated : Extended → Extended
  | finite q => finite (-q)
  | infinite negative => infinite !negative
  | undefined => undefined

/-- The sum. Infinities of both signs have none. -/
def plus : Extended → Extended → Extended
  | finite p, finite q => finite (p + q)
  | infinite s, infinite t => if s = t then infinite s else undefined
  | infinite s, finite _ => infinite s
  | finite _, infinite t => infinite t
  | _, _ => undefined

/-- A whole multiple. An infinity, not taken at all, is no number. -/
def multiple : Extended → Nat → Extended
  | finite q, n => finite (q * n)
  | infinite s, n => if n = 0 then undefined else infinite s
  | undefined, _ => undefined

/-- The half. -/
def halved : Extended → Extended
  | finite q => finite (q / 2)
  | infinite s => infinite s
  | undefined => undefined

/-- Whether the first is less than the second. What is no number is neither less nor greater. -/
def less : Extended → Extended → Bool
  | finite p, finite q => p < q
  | infinite s, infinite t => s && !t
  | infinite s, finite _ => s
  | finite _, infinite t => !t
  | _, _ => false

/-- Whether the first is less than or equal to the second. -/
def lessOrEqual : Extended → Extended → Bool
  | finite p, finite q => p ≤ q
  | infinite s, infinite t => s || !t
  | infinite s, finite _ => s
  | finite _, infinite t => !t
  | _, _ => false

/-- Doubles without rounding. -/
instance : Scalar Extended where
  add := plus
  sub a b := plus a b.negated
  whole n := finite n
  times := multiple
  half := halved
  below := less
  atMost := lessOrEqual

/-- The number that a double is. -/
def ofDouble (x : Float) : Extended :=
  if x.isNaN then undefined
  else if x.isInf then infinite (x < 0.0)
  else
    let b := Binary.ofBits (x.toBits.toNat % Nat.pow 2 63)
    let (num, den) := Binary.ratio b.mantissa b.exponent
    let q : Rat := mkRat num den
    finite (if x < 0.0 then -q else q)

open Scalar

/-! ### Order -/

section

variable (p q : Rat) (s t : Bool) (a : Extended)

@[simp] theorem atMost_finite : atMost (finite p) (finite q) = decide (p ≤ q) := rfl

@[simp] theorem atMost_infinite : atMost (infinite s) (infinite t) = (s || !t) := rfl

@[simp] theorem atMost_infinite_finite : atMost (infinite s) (finite q) = s := rfl

@[simp] theorem atMost_finite_infinite : atMost (finite p) (infinite t) = !t := rfl

@[simp] theorem atMost_undefined : atMost a undefined = false := by cases a <;> rfl

@[simp] theorem undefined_atMost : atMost undefined a = false := rfl

@[simp] theorem below_finite : below (finite p) (finite q) = decide (p < q) := rfl

@[simp] theorem below_infinite : below (infinite s) (infinite t) = (s && !t) := rfl

@[simp] theorem below_infinite_finite : below (infinite s) (finite q) = s := rfl

@[simp] theorem below_finite_infinite : below (finite p) (infinite t) = !t := rfl

@[simp] theorem below_undefined : below a undefined = false := by cases a <;> rfl

@[simp] theorem undefined_below : below undefined a = false := rfl

@[simp] theorem whole_zero : (whole 0 : Extended) = finite 0 := rfl

@[simp] theorem finite_add : finite p + finite q = finite (p + q) := rfl

@[simp] theorem infinite_add : infinite s + finite q = infinite s := rfl

@[simp] theorem add_infinite : finite p + infinite t = infinite t := rfl

@[simp] theorem infinite_add_self : infinite s + infinite s = infinite s := if_pos rfl

end

/-- Comparisons and sums go together: nothing is at most what is no number. -/
theorem ordered : Ordered Extended where
  refl_right {a b} h := by
    cases b with
    | undefined => simp at h
    | _ => simp
  trans {a b c} hab hbc := by
    -- mixed comparisons are decided by the signs alone
    cases a <;> cases b <;> cases c <;> simp_all
    case finite.finite.finite => exact hab.trans hbc
    case infinite.infinite.infinite s t u =>
      rcases hab with hs | ht
      · exact .inl hs
      · exact .inr (hbc.resolve_left (by simp [ht]))
  atMost_of_below {a b} h := by
    cases a <;> cases b <;> simp_all
    exact h.le
  not_atMost_of_below {a b} h := by
    cases a <;> cases b <;> simp_all
  whole_nonneg n := decide_eq_true (Nat.cast_le.2 n.zero_le)
  atMost_add {a b} ha hb := by
    cases a <;> cases b <;> simp_all

/-! ### What is finite -/

@[simp] theorem isFinite_finite (q : Rat) : (finite q).isFinite = true := rfl

@[simp] theorem isFinite_whole (n : Nat) : (whole n : Extended).isFinite = true := rfl

@[simp] theorem isFinite_add_iff {a b : Extended} :
    (a + b).isFinite = true ↔ a.isFinite = true ∧ b.isFinite = true := by
  show (plus a b).isFinite = true ↔ _
  cases a with
  | infinite s =>
    cases b with
    | infinite t => by_cases h : s = t <;> simp [plus, isFinite, h]
    | _ => simp [plus, isFinite]
  | _ => cases b <;> simp [plus, isFinite]

@[simp] theorem isFinite_negated (a : Extended) : a.negated.isFinite = a.isFinite := by
  cases a <;> rfl

@[simp] theorem isFinite_sub_iff {a b : Extended} :
    (a - b).isFinite = true ↔ a.isFinite = true ∧ b.isFinite = true := by
  show (a + b.negated).isFinite = true ↔ _
  rw [isFinite_add_iff, isFinite_negated]

@[simp] theorem isFinite_half (a : Extended) : (half a).isFinite = a.isFinite := by
  cases a <;> rfl

/-- No multiple of an infinity is finite, not even the one that does not take it at all. -/
@[simp] theorem isFinite_times (a : Extended) (n : Nat) : (times a n).isFinite = a.isFinite := by
  cases a with
  | infinite s =>
    show (multiple (infinite s) n).isFinite = false
    by_cases h : n = 0 <;> simp [multiple, isFinite, h]
  | _ => rfl

/-! ### What is bounded below -/

/-- Whether a number is finite or beyond all finite ones. -/
def BoundedBelow : Extended → Prop
  | finite _ => True
  | infinite negative => negative = false
  | undefined => False

theorem BoundedBelow.of_isFinite {a : Extended} (h : a.isFinite = true) : a.BoundedBelow := by
  cases a with
  | finite q => trivial
  | _ => cases h

theorem BoundedBelow.of_nonneg {a : Extended} (h : atMost (whole 0) a = true) :
    a.BoundedBelow := by
  cases a with
  | finite q => trivial
  | infinite t => simpa [BoundedBelow] using h
  | undefined => cases h

theorem BoundedBelow.add {a b : Extended} (ha : a.BoundedBelow) (hb : b.BoundedBelow) :
    (a + b).BoundedBelow := by
  cases a <;> cases b <;> simp_all [BoundedBelow]

/-- Of two numbers that are bounded below, the larger is finite only if both are. -/
theorem isFinite_larger_iff {a b : Extended} (ha : a.BoundedBelow) (hb : b.BoundedBelow) :
    (larger a b).isFinite = true ↔ a.isFinite = true ∧ b.isFinite = true := by
  by_cases h : below a b = true
  · rw [larger, if_pos h]
    cases a <;> cases b <;> simp_all [BoundedBelow, isFinite]
  · rw [larger, if_neg h]
    cases a <;> cases b <;> simp_all [BoundedBelow, isFinite]

end Extended

end Swimlane
