import Swimlane.Proofs.Grid.Room
import Swimlane.Proofs.Grid.Stacking

/-!
# Elements in one band

The elements of a band do not reach beyond its sides. In a lane they keep their distances, so that
they are apart. In a row they share a middle line, so that those of one column lie upon each other,
and only those.

- `Grid.laneShelf_position_y`, `Grid.poolShelf_position_y`: how high an element stands.
- `Grid.fits_of_mem_members`: elements do not reach beyond their bands.
- `Grid.memberArea_overlaps_iff`: which elements of one band overlap.
-/

namespace Swimlane.Grid

open Scalar

variable {config : Config Rat} {box : String → Box Rat} {gridWidth : Rat} {d : Document}
  {s : Shelf Rat}

/-- Bands move their elements sideways as a whole. -/
theorem exists_position_x (hs : s ∈ shelves config box gridWidth d.bands) :
    ∃ offset, ∀ e, (s.position e).x = offset + (box e.id).x := by
  rcases mem_shelves hs with ⟨_, _, rfl⟩ | ⟨_, _, _, -, -, _, _, -, rfl⟩
  · exact ⟨config.headerWidth, fun _ => rfl⟩
  · exact ⟨0, fun e => (zero_add (box e.id).x).symm⟩

/-- Elements keep their distances in a lane. -/
theorem laneShelf_position_y (pool : Node Rat) (top : Rat) (band : Band.Lane) (e : Element) :
    ((laneShelf config box gridWidth pool top band).position e).y =
      laneHeight config box band / 2 + ((box e.id).y - centre (places box band.members)) -
        (e.kind.drawn.height : Rat) / 2 :=
  rfl

/-- Elements share the middle line of a row. -/
theorem poolShelf_position_y (top : Rat) (pool : Band.Pool) (e : Element) :
    ((poolShelf config box gridWidth top pool).position e).y =
      config.rowHeight / 2 - (e.kind.drawn.height : Rat) / 2 :=
  rfl

/-- In a lane, elements do not reach beyond the upper and the lower side. -/
theorem Config.Spacious.laneShelf_vertical (hconfig : config.Spacious) (pool : Node Rat) (top : Rat)
    (band : Band.Lane) {e : Element} (he : e ∈ band.members) :
    0 ≤ ((laneShelf config box gridWidth pool top band).position e).y ∧
      ((laneShelf config box gridWidth pool top band).position e).y + e.kind.drawn.height ≤
        laneHeight config box band := by
  have hmem : (box e.id).y ∈ places box band.members := List.mem_map_of_mem he
  have hleast := smallest_le hmem (whole 0)
  have hgreatest := le_largest hmem (whole 0)
  have hheight := span_le_laneHeight config box band
  have hdrawn := hconfig.lane e.kind
  rw [span] at hheight
  rw [laneShelf_position_y, centre, half_eq]
  exact ⟨by linarith, by linarith⟩

variable (hconfig : config.Spacious) (hroomy : d.Roomy box)
  (hwidth : ∀ e ∈ d.uniqueElements, (box e.id).rightEdge + config.gridPadding ≤ gridWidth)
  (hs : s ∈ shelves config box gridWidth d.bands)

include hconfig hroomy hwidth hs

/-- Elements do not reach beyond the sides of their bands. -/
theorem fits_of_mem_members {e : Element} (he : e ∈ s.members) : s.Fits e := by
  have hunique := mem_uniqueElements_of_mem_members hs he
  have hleft := hroomy.nonneg e hunique
  have hright : (box e.id).x + e.kind.drawn.width ≤ gridWidth := by
    have hedge := hwidth e hunique
    have hgrid := hconfig.grid e.kind
    rw [Box.rightEdge, half_eq, hroomy.width_eq e hunique] at hedge
    linarith
  have hheader := hconfig.header
  rcases mem_shelves hs with ⟨top, ⟨id, label, content⟩, rfl⟩ | ⟨_, _, _, -, -, top, lane, -, rfl⟩
  · cases content with
    | lanes lanes => cases he
    | row members =>
      -- the header is added to the place, and to the width of the band
      have hrow := hconfig.row e.kind
      refine ⟨?left, ?right, ?top, ?bottom⟩
      case left =>
        show 0 ≤ config.headerWidth + (box e.id).x
        linarith
      case right =>
        show config.headerWidth + (box e.id).x + e.kind.drawn.width ≤
          gridWidth + config.headerWidth
        linarith
      case top =>
        rw [poolShelf_position_y]
        linarith
      case bottom =>
        show _ ≤ config.rowHeight
        rw [poolShelf_position_y]
        linarith
  · obtain ⟨htop, hbottom⟩ := hconfig.laneShelf_vertical _ top lane he
    exact ⟨hleft, hright, htop, hbottom⟩

omit hconfig hwidth

/-- Elements of different columns are beside each other. -/
theorem right_le_left_of_rank_lt {e f : Element} (he : e ∈ s.members) (hf : f ∈ s.members)
    (hlt : d.rank e.id < d.rank f.id) : (s.memberArea e).right ≤ (s.memberArea f).left := by
  have hbeside := hroomy.beside e (mem_uniqueElements_of_mem_members hs he) f
    (mem_uniqueElements_of_mem_members hs hf) hlt
  obtain ⟨offset, hposition⟩ := exists_position_x hs
  rw [Shelf.memberArea_eq, Shelf.memberArea_eq, hposition, hposition]
  show s.area.left + (offset + (box e.id).x) + e.kind.drawn.width ≤
    s.area.left + (offset + (box f.id).x)
  linarith

/-- Elements of one column lie upon each other in a row, and are apart in a lane. -/
theorem memberArea_overlaps_iff_of_rank_eq {e f : Element} (he : e ∈ s.members)
    (hf : f ∈ s.members) (hne : e.id ≠ f.id) (heq : d.rank e.id = d.rank f.id) :
    (s.memberArea e).Overlaps (s.memberArea f) ↔ s.house = none := by
  obtain ⟨hx, hstacked⟩ := hroomy.stacked e (mem_uniqueElements_of_mem_members hs he) f
    (mem_uniqueElements_of_mem_members hs hf) heq hne
  obtain ⟨offset, hposition⟩ := exists_position_x hs
  have hdrawn (k : ElementKind) : (0 : Rat) < k.drawn.width ∧ (0 : Rat) < k.drawn.height := by
    exact_mod_cast k.drawn_pos
  rw [Shelf.memberArea_eq, Shelf.memberArea_eq, hposition, hposition, hx]
  rcases mem_shelves hs with ⟨top, pool, rfl⟩ | ⟨_, _, _, -, -, top, lane, -, rfl⟩
  · -- the areas have their left sides and their middle lines in common
    refine iff_of_true (Area.overlaps_of_left_eq rfl ?middle ?_ ?_ ?_ ?_) rfl
    case middle =>
      simp only [poolShelf_position_y]
      linarith
    · exact lt_add_of_pos_right _ (hdrawn e.kind).1
    · exact lt_add_of_pos_right _ (hdrawn f.kind).1
    · exact lt_add_of_pos_right _ (hdrawn e.kind).2
    · exact lt_add_of_pos_right _ (hdrawn f.kind).2
  · -- the middle of the lane moves both places by the same distance, so that they stay apart
    refine iff_of_false (fun hoverlaps => ?_) (Option.some_ne_none _)
    rcases hstacked with habove | hbelow
    · refine Area.not_overlaps_of_bottom_le ?_ hoverlaps
      simp only [laneShelf_position_y]
      linarith
    · refine Area.not_overlaps_of_bottom_le ?_ hoverlaps.symm
      simp only [laneShelf_position_y]
      linarith

/-- Two elements of one band overlap if and only if it is no lane and they have the same rank. -/
theorem memberArea_overlaps_iff {e f : Element} (he : e ∈ s.members) (hf : f ∈ s.members)
    (hne : e.id ≠ f.id) : (s.memberArea e).Overlaps (s.memberArea f) ↔
      s.house = none ∧ d.rank e.id = d.rank f.id := by
  rcases lt_trichotomy (d.rank e.id) (d.rank f.id) with hlt | heq | hgt
  · have hbeside := right_le_left_of_rank_lt hroomy hs he hf hlt
    exact iff_of_false (Area.not_overlaps_of_right_le hbeside) fun h => hlt.ne h.2
  · rw [memberArea_overlaps_iff_of_rank_eq hroomy hs he hf hne heq]
    exact ⟨fun hhouse => ⟨hhouse, heq⟩, fun h => h.1⟩
  · have hbeside := right_le_left_of_rank_lt hroomy hs hf he hgt
    refine iff_of_false (fun hoverlaps => ?_) fun h => hgt.ne' h.2
    exact Area.not_overlaps_of_right_le hbeside hoverlaps.symm

end Swimlane.Grid
