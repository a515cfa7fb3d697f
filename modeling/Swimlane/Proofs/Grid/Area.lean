import Mathlib.Algebra.BigOperators.Group.List.Basic
import Mathlib.Algebra.Order.Field.Basic
import Swimlane.Proofs.Grid.Nesting
import Swimlane.Proofs.Scalar.Exact

/-!
# Areas

The part of the plane that a node covers. Its corner is as far from the corner of the diagram as the
positions of the node and of all bands it stands in are together; nothing is looked up by its
identifier.

- `Area`, `Area.Interior`: the plane between four sides.
- `Area.Overlaps`, `Area.Within`: areas with a common interior point, and one inside another.
- `Area.of`: the area of a node in its bands.
- `Grid.Shelf.area`, `Grid.Shelf.memberArea`: the areas of a band and of the elements in it.
- `Grid.Shelf.Fits`: an element that does not reach beyond the sides of its band.
-/

namespace Swimlane

/-- The part of the plane between four sides. -/
structure Area where
  left : Rat
  right : Rat
  top : Rat
  bottom : Rat
  deriving DecidableEq, Repr

namespace Area

/-- A point that lies strictly between the sides. -/
def Interior (a : Area) (p : Point Rat) : Prop :=
  a.left < p.x ∧ p.x < a.right ∧ a.top < p.y ∧ p.y < a.bottom

/-- The interiors of two areas have a point in common. -/
def Overlaps (a b : Area) : Prop := ∃ p, a.Interior p ∧ b.Interior p

/-- An area that does not reach beyond the sides of another one. -/
structure Within (a b : Area) : Prop where
  left : b.left ≤ a.left
  right : a.right ≤ b.right
  top : b.top ≤ a.top
  bottom : a.bottom ≤ b.bottom

variable {a b : Area}

theorem Overlaps.symm (h : a.Overlaps b) : b.Overlaps a := by
  obtain ⟨p, ha, hb⟩ := h
  exact ⟨p, hb, ha⟩

theorem Within.interior (h : a.Within b) {p : Point Rat} (hp : a.Interior p) : b.Interior p := by
  obtain ⟨hleft, hright, htop, hbottom⟩ := hp
  exact ⟨h.left.trans_lt hleft, hright.trans_le h.right, h.top.trans_lt htop,
    hbottom.trans_le h.bottom⟩

/-- Areas around areas that overlap do so as well. -/
theorem Overlaps.of_within (h : a.Overlaps b) {a' b' : Area} (ha : a.Within a')
    (hb : b.Within b') : a'.Overlaps b' := by
  obtain ⟨p, hpa, hpb⟩ := h
  exact ⟨p, ha.interior hpa, hb.interior hpb⟩

/-- Areas beside each other do not overlap. -/
theorem not_overlaps_of_right_le (h : a.right ≤ b.left) : ¬ a.Overlaps b := by
  rintro ⟨p, ⟨-, hright, -⟩, hleft, -⟩
  linarith

/-- Areas one above the other do not overlap. -/
theorem not_overlaps_of_bottom_le (h : a.bottom ≤ b.top) : ¬ a.Overlaps b := by
  rintro ⟨p, ⟨-, -, -, hbottom⟩, -, -, htop, -⟩
  linarith

/-- Areas that begin on one line and have one middle line overlap, unless there is nothing to
them. -/
theorem overlaps_of_left_eq (hleft : a.left = b.left)
    (hmiddle : a.top + a.bottom = b.top + b.bottom) (ha : a.left < a.right) (hb : b.left < b.right)
    (ha' : a.top < a.bottom) (hb' : b.top < b.bottom) : a.Overlaps b := by
  rw [← hleft] at hb
  obtain ⟨x, hx, hxmin⟩ := exists_between (lt_min ha hb)
  obtain ⟨hxa, hxb⟩ := lt_min_iff.1 hxmin
  refine ⟨⟨x, (a.top + a.bottom) / 2⟩, ⟨hx, hxa, ?_, ?_⟩, ?_, hxb, ?_, ?_⟩
  · show a.top < (a.top + a.bottom) / 2
    linarith
  · show (a.top + a.bottom) / 2 < a.bottom
    linarith
  · show b.left < x
    rwa [← hleft]
  · show b.top < (a.top + a.bottom) / 2
    linarith
  · show (a.top + a.bottom) / 2 < b.bottom
    linarith

/-- The area of a node that stands in bands. -/
def of (x : Node Rat × List (Node Rat)) : Area :=
  let left := x.1.position.x + (x.2.map (·.position.x)).sum
  let top := x.1.position.y + (x.2.map (·.position.y)).sum
  ⟨left, left + x.1.extent.width, top, top + x.1.extent.height⟩

end Area

namespace Grid.Shelf

/-- The area of the band of a shelf. -/
def area (s : Shelf Rat) : Area := .of (s.band, s.house.toList)

/-- The area of an element on a shelf. -/
def memberArea (s : Shelf Rat) (e : Element) : Area :=
  .of (elementNode e (s.position e) s.band.id, s.bands)

/-- The area of an element begins at its position in the area of the band. -/
theorem memberArea_eq (s : Shelf Rat) (e : Element) :
    s.memberArea e =
      ⟨s.area.left + (s.position e).x, s.area.left + (s.position e).x + e.kind.drawn.width,
        s.area.top + (s.position e).y, s.area.top + (s.position e).y + e.kind.drawn.height⟩ := by
  have hleft : (s.position e).x + (s.bands.map (·.position.x)).sum =
      s.area.left + (s.position e).x := by
    rw [bands, List.map_cons, List.sum_cons, add_comm]
    rfl
  have htop : (s.position e).y + (s.bands.map (·.position.y)).sum =
      s.area.top + (s.position e).y := by
    rw [bands, List.map_cons, List.sum_cons, add_comm]
    rfl
  rw [← hleft, ← htop]
  rfl

theorem area_right (s : Shelf Rat) : s.area.right = s.area.left + s.band.extent.width := rfl

theorem area_bottom (s : Shelf Rat) : s.area.bottom = s.area.top + s.band.extent.height := rfl

/-- An element of a shelf that does not reach beyond the sides of the band. -/
structure Fits (s : Shelf Rat) (e : Element) : Prop where
  left : 0 ≤ (s.position e).x
  right : (s.position e).x + e.kind.drawn.width ≤ s.band.extent.width
  top : 0 ≤ (s.position e).y
  bottom : (s.position e).y + e.kind.drawn.height ≤ s.band.extent.height

variable {s : Shelf Rat} {e : Element}

theorem Fits.within (h : s.Fits e) : (s.memberArea e).Within s.area := by
  rw [memberArea_eq]
  refine ⟨?left, ?right, ?top, ?bottom⟩
  case left => exact le_add_of_nonneg_right h.left
  case right =>
    show s.area.left + (s.position e).x + e.kind.drawn.width ≤ s.area.right
    rw [area_right]
    linarith [h.right]
  case top => exact le_add_of_nonneg_right h.top
  case bottom =>
    show s.area.top + (s.position e).y + e.kind.drawn.height ≤ s.area.bottom
    rw [area_bottom]
    linarith [h.bottom]

/-- A band in which an element fits is not flat. -/
theorem Fits.top_lt_bottom (h : s.Fits e) : s.area.top < s.area.bottom := by
  have hdrawn : (0 : Rat) < e.kind.drawn.height := by
    exact_mod_cast e.kind.drawn_pos.2
  rw [area_bottom]
  linarith [h.top, h.bottom]

end Grid.Shelf

end Swimlane
