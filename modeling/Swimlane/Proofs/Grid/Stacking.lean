import Mathlib.Algebra.Order.BigOperators.Group.List
import Swimlane.Proofs.Grid.Area

/-!
# Bands one above another

Pools stand one below another with a gap, and the lanes of a pool fill its height. So a band ends
where a later one begins, or before that, unless it is the pool of a lane, which holds no elements
itself.

- `Grid.Config.Spacious`: constants that leave room for the shapes of all kinds.
- `Grid.laneShelves_within`, `Grid.poolShelves_within`: from where to where bands reach.
- `Grid.Shelf.Precedes`, `Grid.shelves_stacked`: how two bands of a grid lie to each other.
-/

namespace Swimlane.Grid

open Scalar

/-- Constants that leave room: no distance is negative, a shape that begins in the middle of its place
does not reach beyond the padding of the grid, and none is taller than a row or the padding of a
lane. -/
structure Config.Spacious (config : Config Rat) : Prop where
  header : 0 ≤ config.headerWidth
  gap : 0 ≤ config.poolGap
  grid : ∀ k : ElementKind, (k.drawn.width : Rat) ≤ k.reserved.width / 2 + config.gridPadding
  lane : ∀ k : ElementKind, (k.drawn.height : Rat) ≤ config.lanePadding
  row : ∀ k : ElementKind, (k.drawn.height : Rat) ≤ config.rowHeight

/-- The constants that are used when none are given leave room. -/
theorem Config.spacious_standard : (Config.standard : Config Rat).Spacious := by
  refine ⟨?header, ?gap, ?grid, ?lane, ?row⟩
  case header => decide
  case gap => decide
  case grid => rintro (_ | _ | _ | _ | _) <;> decide +kernel
  case lane => rintro (_ | _ | _ | _ | _) <;> decide
  case row => rintro (_ | _ | _ | _ | _) <;> decide

/-! ### Heights -/

variable {config : Config Rat} {box : String → Box Rat} {gridWidth : Rat}

theorem span_nonneg (ys : List Rat) : 0 ≤ span ys := sub_nonneg.2 (smallest_le_largest ys)

theorem span_le_laneHeight (config : Config Rat) (box : String → Box Rat) (band : Band.Lane) :
    span (places box band.members) + config.lanePadding ≤ laneHeight config box band := by
  rw [laneHeight, larger_eq_max]
  exact le_max_right _ _

namespace Config.Spacious

variable (h : config.Spacious)

include h

theorem laneHeight_nonneg (box : String → Box Rat) (band : Band.Lane) :
    0 ≤ laneHeight config box band := by
  have hpadding : 0 ≤ config.lanePadding := le_trans (Nat.cast_nonneg _) (h.lane .activity)
  have hspan := span_nonneg (places box band.members)
  have hheight := span_le_laneHeight config box band
  linarith

theorem laneHeights_nonneg (box : String → Box Rat) (bands : List Band.Lane) :
    0 ≤ (bands.map (laneHeight config box)).sum := by
  refine List.sum_nonneg fun height hheight => ?_
  obtain ⟨band, -, rfl⟩ := List.mem_map.1 hheight
  exact h.laneHeight_nonneg box band

theorem poolHeight_nonneg (box : String → Box Rat) (content : Band.Content) :
    0 ≤ poolHeight config box content := by
  cases content with
  | lanes bands =>
    rw [poolHeight, total_eq_sum]
    exact h.laneHeights_nonneg box bands
  | row members => exact le_trans (Nat.cast_nonneg _) (h.row .activity)

end Config.Spacious

/-! ### Where the bands begin and end -/

theorem laneShelf_top (pool : Node Rat) (top : Rat) (band : Band.Lane) :
    (laneShelf config box gridWidth pool top band).area.top = pool.position.y + top := by
  show top + (pool.position.y + 0) = pool.position.y + top
  rw [add_zero, add_comm]

theorem laneShelf_bottom (pool : Node Rat) (top : Rat) (band : Band.Lane) :
    (laneShelf config box gridWidth pool top band).area.bottom =
      pool.position.y + top + laneHeight config box band := by
  rw [Shelf.area_bottom, laneShelf_top]
  rfl

theorem poolShelf_top (top : Rat) (band : Band.Pool) :
    (poolShelf config box gridWidth top band).area.top = top :=
  add_zero top

theorem poolShelf_bottom (top : Rat) (band : Band.Pool) :
    (poolShelf config box gridWidth top band).area.bottom =
      top + poolHeight config box band.content := by
  rw [Shelf.area_bottom, poolShelf_top]
  rfl

variable (hconfig : config.Spacious)

include hconfig

/-- Lanes reach from the first top as far down as their heights together. -/
theorem laneShelves_within {pool : Node Rat} {top : Rat} {bands : List Band.Lane} {s : Shelf Rat}
    (hs : s ∈ laneShelves config box gridWidth pool top bands) :
    pool.position.y + top ≤ s.area.top ∧
      s.area.bottom ≤ pool.position.y + top + (bands.map (laneHeight config box)).sum := by
  induction bands generalizing top with
  | nil => cases hs
  | cons band rest ih =>
    have hheight := hconfig.laneHeight_nonneg box band
    have hrest := hconfig.laneHeights_nonneg box rest
    rw [List.map_cons, List.sum_cons]
    rcases List.mem_cons.1 hs with rfl | hs
    · rw [laneShelf_top, laneShelf_bottom]
      exact ⟨le_rfl, by linarith⟩
    · obtain ⟨htop, hbottom⟩ := ih hs
      exact ⟨by linarith, by linarith⟩

/-- A pool and its lanes reach from the top of the pool as far down as its height. -/
theorem poolShelves_within {top : Rat} {band : Band.Pool} {s : Shelf Rat}
    (hs : s ∈ poolShelves config box gridWidth top band) :
    top ≤ s.area.top ∧ s.area.bottom ≤ top + poolHeight config box band.content := by
  rcases List.mem_cons.1 hs with rfl | hs
  · rw [poolShelf_top, poolShelf_bottom]
    exact ⟨le_rfl, le_rfl⟩
  · cases hcontent : band.content with
    | row members =>
      rw [hcontent] at hs
      cases hs
    | lanes bands =>
      rw [hcontent] at hs
      have hwithin := laneShelves_within hconfig hs
      rw [← total_eq_sum] at hwithin
      simpa [poolShelf, bandNode, poolHeight] using hwithin

/-- Pools reach from the first top downwards. -/
theorem top_le_of_mem_shelvesFrom {top : Rat} {bands : List Band.Pool} {s : Shelf Rat}
    (hs : s ∈ shelvesFrom config box gridWidth top bands) : top ≤ s.area.top := by
  induction bands generalizing top with
  | nil => cases hs
  | cons band rest ih =>
    rcases List.mem_append.1 hs with hs | hs
    · exact (poolShelves_within hconfig hs).1
    · have hheight := hconfig.poolHeight_nonneg box band.content
      have hgap := hconfig.gap
      have htop := ih hs
      linarith

/-! ### Earlier and later bands -/

/-- A band that ends before another one begins, or one without elements that the other one stands
in. -/
def Shelf.Precedes (s t : Shelf Rat) : Prop :=
  s.area.bottom ≤ t.area.top ∨ s.members = [] ∧ t.house = some s.band

theorem laneShelves_stacked (pool : Node Rat) (top : Rat) (bands : List Band.Lane) :
    (laneShelves config box gridWidth pool top bands).Pairwise Shelf.Precedes := by
  induction bands generalizing top with
  | nil => exact .nil
  | cons band rest ih =>
    refine .cons (fun t ht => .inl ?_) (ih _)
    have htop := (laneShelves_within hconfig ht).1
    rw [laneShelf_bottom]
    linarith

theorem poolShelves_stacked (top : Rat) (band : Band.Pool) :
    (poolShelves config box gridWidth top band).Pairwise Shelf.Precedes := by
  obtain ⟨id, label, content⟩ := band
  cases content with
  | row members => exact List.pairwise_singleton _ _
  | lanes bands =>
    refine .cons (fun t ht => .inr ?_) (laneShelves_stacked hconfig _ _ _)
    obtain ⟨_, _, -, rfl⟩ := mem_laneShelves ht
    exact ⟨rfl, rfl⟩

/-- **Stacking**: of two bands of a grid, the earlier one ends before the later one begins, or it is
the pool of the later one and holds no elements itself. -/
theorem shelves_stacked (bands : List Band.Pool) :
    (shelves config box gridWidth bands).Pairwise Shelf.Precedes := by
  suffices ∀ top : Rat, (shelvesFrom config box gridWidth top bands).Pairwise Shelf.Precedes from
    this _
  induction bands with
  | nil => exact fun _ => .nil
  | cons band rest ih =>
    intro top
    refine List.pairwise_append.2 ⟨poolShelves_stacked hconfig top band, ih _, ?_⟩
    -- the first pool ends at its height, and the next one begins a gap below that
    intro s hs t ht
    have hbottom := (poolShelves_within hconfig hs).2
    have htop := top_le_of_mem_shelvesFrom hconfig ht
    have hgap := hconfig.gap
    exact .inl (by linarith)

end Swimlane.Grid
