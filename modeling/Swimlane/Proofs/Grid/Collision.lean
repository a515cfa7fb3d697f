import Swimlane.Proofs.Grid.Conservation
import Swimlane.Proofs.Grid.Fitting

/-!
# Elements inside their bands and apart from each other

Bands that hold elements are one above another, and their elements stay inside them. So elements of
different bands do not overlap, and those of one band only in a row, where their columns are one.

- `Diagram.nested`, `Diagram.contents`, `Diagram.Laneless`: what stands in which bands.
- `Diagram.Arranged`: elements that are inside their bands, and when they overlap.
- `Diagram.laneless_of_mem_members`: no lane stands in the band of a row.
- `Layout.generate_arranged`: every text has a diagram with this arrangement.
-/

namespace Swimlane

open Scalar

namespace Diagram

variable {α : Type}

/-- The nodes of a diagram, each with the bands it stands in, from the inner to the outer. -/
def nested (diagram : Diagram α) : List (Node α × List (Node α)) :=
  Nesting.outside.nested diagram.nodes

/-- The nodes that are no bands, each with the bands it stands in. -/
def contents (diagram : Diagram α) : List (Node α × List (Node α)) :=
  diagram.nested.filter (!·.1.kind.isBand)

/-- No lane stands in a band. -/
def Laneless (diagram : Diagram α) (band : Node α) : Prop :=
  ∀ x ∈ diagram.nested, x.1.kind = .lane → band ∉ x.2

/-- A diagram that shows every element that counts in its size, each inside its band, and in which two
elements overlap if and only if both stand directly in one band without lanes and in the same
column. -/
structure Arranged (diagram : Diagram Rat) (d : Document) : Prop where
  shown : (diagram.contents.map fun x => (x.1.id, x.1.extent)).Perm
    (d.uniqueElements.map fun e => (e.id, .shape e.kind.drawn))
  inside : ∀ x ∈ diagram.contents, ∃ band outer, x.2 = band :: outer ∧
    (Area.of x).Within (.of (band, outer))
  overlaps_iff : diagram.contents.Pairwise fun x y => (Area.of x).Overlaps (.of y) ↔
    ∃ band, x.2 = [band] ∧ y.2 = [band] ∧ diagram.Laneless band ∧ d.rank x.1.id = d.rank y.1.id

theorem map_fst_contents (diagram : Diagram α) :
    diagram.contents.map (·.1) = diagram.contentNodes := by
  rw [contents, contentNodes, ← Nesting.map_fst_nested .outside diagram.nodes, List.filter_map]
  rfl

end Diagram

namespace Grid.Shelf

/-- The elements of a shelf, each with the bands it stands in. -/
def nestedMembers {α : Type} (s : Shelf α) : List (Node α × List (Node α)) :=
  s.members.map fun e => (elementNode e (s.position e) s.band.id, s.bands)

theorem bands_eq_singleton_iff {α : Type} {s : Shelf α} {band : Node α} :
    s.bands = [band] ↔ s.band = band ∧ s.house = none := by
  rw [bands]
  cases s.house <;> simp

/-- Shelves in the same bands have the same area. -/
theorem area_eq_of_bands_eq {s t : Shelf Rat} (h : s.bands = t.bands) : s.area = t.area := by
  obtain ⟨hband, hhouse⟩ := List.cons.inj h
  rw [area, area, hband, hhouse]

/-- Elements of an earlier band do not overlap with those of a later one. -/
theorem Precedes.not_overlaps {s t : Shelf Rat} (h : s.Precedes t) {e f : Element}
    (hmem : e ∈ s.members) (he : s.Fits e) (hf : t.Fits f) :
    ¬ (s.memberArea e).Overlaps (t.memberArea f) := by
  intro hoverlaps
  rcases h with hbelow | ⟨hmembers, -⟩
  · exact Area.not_overlaps_of_bottom_le hbelow (hoverlaps.of_within he.within hf.within)
  · rw [hmembers] at hmem
    cases hmem

/-- A band that is not flat and one behind it are different, unless the latter stands in the
former. -/
theorem Precedes.bands_ne {s t : Shelf Rat} (h : s.Precedes t)
    (hflat : s.area.top < s.area.bottom) (hhouse : t.house = none) : s.bands ≠ t.bands := by
  intro hbands
  rcases h with hbelow | ⟨-, hhouse'⟩
  · rw [← area_eq_of_bands_eq hbands] at hbelow
    exact hflat.not_ge hbelow
  · rw [hhouse] at hhouse'
    cases hhouse'

end Grid.Shelf

section

variable {config : Grid.Config Rat} {box : String → Box Rat} {gridWidth : Rat} {d : Document}
  {diagram : Diagram Rat} (hnodes : diagram.nodes = Grid.nodes config box gridWidth d.bands)

include hnodes

namespace Diagram

/-- The elements of a diagram are those of its shelves. -/
theorem contents_eq_flatMap :
    diagram.contents =
      (Grid.shelves config box gridWidth d.bands).flatMap Grid.Shelf.nestedMembers := by
  rw [contents, nested, hnodes, Grid.nested_nodes, List.filter_flatMap]
  refine List.flatMap_congr fun s hs => ?_
  have hband : ¬ (!s.band.kind.isBand) = true := by simp [Grid.isBand_of_mem_shelves hs]
  rw [Grid.Shelf.nested, List.filter_cons, if_neg hband, List.filter_map]
  exact congrArg _ (List.filter_eq_self.2 fun _ _ => rfl)

/-- No identifier is shown by two elements. -/
theorem contents_pairwise : diagram.contents.Pairwise fun x y => x.1.id ≠ y.1.id := by
  have hconserves : diagram.Conserves d := conserves_of_nodes d hnodes
  have hids : (diagram.contentNodes.map (·.id)).Nodup :=
    hconserves.ids_contentNodes_perm.nodup_iff.2 d.nodup_ids
  rw [← map_fst_contents, List.map_map] at hids
  exact List.pairwise_map.1 hids

/-- No identifier stands twice in one band. -/
theorem members_pairwise {s : Grid.Shelf Rat}
    (hs : s ∈ Grid.shelves config box gridWidth d.bands) :
    s.members.Pairwise fun e f => e.id ≠ f.id := by
  have hpairwise := contents_pairwise hnodes
  rw [contents_eq_flatMap hnodes, List.pairwise_flatMap] at hpairwise
  have hmembers := hpairwise.1 s hs
  rw [Grid.Shelf.nestedMembers, List.pairwise_map] at hmembers
  exact hmembers

/-- The band of a row holds no lanes. -/
theorem laneless_of_mem_members (hconfig : config.Spacious) {s : Grid.Shelf Rat}
    (hs : s ∈ Grid.shelves config box gridWidth d.bands) (hhouse : s.house = none)
    {e : Element} (he : e ∈ s.members) (hfits : s.Fits e) : diagram.Laneless s.band := by
  intro x hx hkind hmem
  rw [nested, hnodes, Grid.nested_nodes] at hx
  obtain ⟨t, ht, hx⟩ := List.mem_flatMap.1 hx
  rcases List.mem_cons.1 hx with rfl | hx
  · rcases Grid.mem_shelves ht with ⟨_, _, rfl⟩ | ⟨top, pool, lanes, hp, hcontent, _, _, -, rfl⟩
    · cases hkind
    · -- the pool of the lane holds no elements itself, so that it would be another shelf in one band
      let p := Grid.poolShelf config box gridWidth top pool
      have hbands : s.bands = p.bands := by
        rw [Grid.Shelf.bands, Grid.Shelf.bands, hhouse, List.mem_singleton.1 hmem]
        rfl
      have hne : s ≠ p := by
        intro hsp
        have hmembers : e ∈ p.members := hsp ▸ he
        rw [Grid.members_poolShelf_of_lanes hcontent] at hmembers
        cases hmembers
      have hflat : s.area.top < s.area.bottom := hfits.top_lt_bottom
      have hstacked : (Grid.shelves config box gridWidth d.bands).Pairwise Grid.Shelf.Precedes :=
        Grid.shelves_stacked hconfig d.bands
      rcases rel_or_rel_of_pairwise hstacked hs hp hne with hprecedes | hprecedes
      · exact hprecedes.bands_ne hflat rfl hbands
      · rw [Grid.Shelf.area_eq_of_bands_eq hbands] at hflat
        exact hprecedes.bands_ne hflat hhouse hbands.symm
  · obtain ⟨_, -, rfl⟩ := List.mem_map.1 hx
    cases hkind

/-- Where there is room for the shapes, elements lie inside their bands and overlap only in rows. -/
theorem arranged_of_nodes (hconfig : config.Spacious) (hroomy : d.Roomy box)
    (hwidth : ∀ e ∈ d.uniqueElements,
      (box e.id).rightEdge + config.gridPadding ≤ gridWidth) : diagram.Arranged d := by
  have hfits : ∀ s ∈ Grid.shelves config box gridWidth d.bands, ∀ e ∈ s.members, s.Fits e :=
    fun s hs e he => Grid.fits_of_mem_members hconfig hroomy hwidth hs he
  refine ⟨?shown, ?inside, ?overlaps⟩
  case shown =>
    have hconserves : diagram.Conserves d := conserves_of_nodes d hnodes
    have hshown : (diagram.contentNodes.map fun n => (n.id, n.extent)).Perm
        (d.uniqueElements.map fun e => (e.id, .shape e.kind.drawn)) :=
      hconserves.map_contentNodes_perm fun _ _ _ => rfl
    rw [← map_fst_contents, List.map_map] at hshown
    exact hshown
  case inside =>
    intro x hx
    rw [contents_eq_flatMap hnodes] at hx
    obtain ⟨s, hs, hx⟩ := List.mem_flatMap.1 hx
    obtain ⟨e, he, rfl⟩ := List.mem_map.1 hx
    exact ⟨s.band, s.house.toList, rfl, (hfits s hs e he).within⟩
  case overlaps =>
    rw [contents_eq_flatMap hnodes]
    refine List.pairwise_flatMap.2 ⟨?same, ?different⟩
    case same =>
      intro s hs
      refine List.pairwise_map.2 ((members_pairwise hnodes hs).imp_of_mem ?_)
      intro e f he hf hne
      show (s.memberArea e).Overlaps (s.memberArea f) ↔ ∃ band, s.bands = [band] ∧
        s.bands = [band] ∧ diagram.Laneless band ∧ d.rank e.id = d.rank f.id
      rw [Grid.memberArea_overlaps_iff hroomy hs he hf hne]
      constructor
      · rintro ⟨hhouse, hrank⟩
        have hbands : s.bands = [s.band] := Grid.Shelf.bands_eq_singleton_iff.2 ⟨rfl, hhouse⟩
        have hlaneless := laneless_of_mem_members hnodes hconfig hs hhouse he (hfits s hs e he)
        exact ⟨s.band, hbands, hbands, hlaneless, hrank⟩
      · rintro ⟨band, hbands, -, -, hrank⟩
        exact ⟨(Grid.Shelf.bands_eq_singleton_iff.1 hbands).2, hrank⟩
    case different =>
      refine (Grid.shelves_stacked hconfig d.bands).imp_of_mem ?_
      intro s t hs ht hprecedes x hx y hy
      obtain ⟨e, he, rfl⟩ := List.mem_map.1 hx
      obtain ⟨f, hf, rfl⟩ := List.mem_map.1 hy
      have hefits := hfits s hs e he
      refine iff_of_false (hprecedes.not_overlaps he hefits (hfits t ht f hf)) ?_
      rintro ⟨band, hsbands, htbands, -⟩
      have hhouse : t.house = none := (Grid.Shelf.bands_eq_singleton_iff.1 htbands).2
      exact hprecedes.bands_ne hefits.top_lt_bottom hhouse (hsbands.trans htbands.symm)

end Diagram

end

/-- The grid is wider than what is placed in it by the padding. -/
theorem Grid.rightEdge_le_width (config : Grid.Config Rat) {boxes : List (String × Box Rat)}
    {id : String} {b : Box Rat} (hb : boxes.lookup id = some b) :
    b.rightEdge + config.gridPadding ≤ Grid.width config boxes := by
  have hmem : b.rightEdge ∈ boxes.map (·.2.rightEdge) :=
    List.mem_map_of_mem (f := fun x => x.2.rightEdge) (Table.mem_of_lookup_eq_some hb)
  have hlargest := le_largest hmem (whole 0)
  rw [Grid.width, larger_eq_max]
  refine le_trans ?_ (le_max_left _ _)
  linarith

namespace Layout

/-- The layered placement leaves room when nothing else is asked for. -/
theorem arranged_placed (d : Document) : (standard.compose d d.placed).Arranged d := by
  have hwidth : ∀ e ∈ d.uniqueElements, (boxOf d.placed e.id).rightEdge +
      (Grid.Config.standard : Grid.Config Rat).gridPadding ≤ Grid.width .standard d.placed := by
    intro e he
    obtain ⟨b, hb, -⟩ := Document.exists_lookup_placed he
    rw [boxOf_of_lookup hb]
    exact Grid.rightEdge_le_width _ hb
  exact Diagram.arranged_of_nodes rfl Grid.Config.spacious_standard d.roomy_placed hwidth

/-- **Arrangement**: every text has a diagram that shows each element inside its band, and in which
two elements overlap if and only if both stand directly in one band without lanes and in the same
column. -/
theorem generate_arranged (text : String) :
    ∃ diagram, (standard : Layout Rat).generate text = .ok diagram ∧
      diagram.Arranged (Notation.parse text) :=
  ⟨_, standard_diagram _, arranged_placed _⟩

-- two tasks that nothing connects lie upon each other in a pool without lanes
example :
    ((standard : Layout Rat).generate "pool: P\ntask: a [P] A\ntask: b [P] B").map
      (·.contents.map Area.of) = .ok [⟨110, 250, 70, 130⟩, ⟨110, 250, 70, 130⟩] := by
  decide +kernel

end Layout

end Swimlane
