import Swimlane.Proofs.Grid.Conservation
import Swimlane.Proofs.Grid.Groups
import Swimlane.Proofs.Scalar.Exact

/-!
# Vertical places within a lane

Of the vertical places that a solver gives, a diagram keeps the distances within a lane and nothing
else. The elements of a lane stand around the middle of its band, those of a row on the middle line
of theirs, and heights do not count. So two results of a solver give the same diagram if they differ
by one distance in every lane.

- `Grid.Moved`: elements that are placed lower by one distance.
- `Grid.Moved.laneHeight_eq`, `Grid.Moved.laneNodes_eq`, `Grid.nodes_eq_of_moved`: the nodes of a
  lane, and those of all bands, when lanes are moved.
- `Document.MovedByLane`: two results of a solver that differ in this way.
- `Node.shelves`: the bands among nodes, each with the elements directly behind it.
- `Node.Centred`: elements around the middle of a band, as far apart as they were placed.
- `Layout.diagram_relative`: diagrams keep the distances within a lane, and depend on nothing else.
-/

namespace Swimlane

open Scalar

/-! ### Lanes that are moved -/

namespace Grid

theorem span_map_add (ys : List Rat) (c : Rat) : span (ys.map (· + c)) = span ys := by
  by_cases hnil : ys = []
  · rw [hnil, List.map_nil]
  · rw [span, largest_map_add hnil, smallest_map_add hnil, add_sub_add_right_eq_sub, span]

theorem centre_map_add {ys : List Rat} (h : ys ≠ []) (c : Rat) :
    centre (ys.map (· + c)) = centre ys + c := by
  rw [centre, largest_map_add h, smallest_map_add h, centre, half_eq, half_eq]
  linarith

/-- Elements that are placed lower by one distance. -/
def Moved (box box' : String → Box Rat) (members : List Element) : Prop :=
  ∃ c, ∀ e ∈ members, (box' e.id).y = (box e.id).y + c

variable {config : Config Rat} {box box' : String → Box Rat}

theorem places_of_moved {members : List Element} {c : Rat}
    (h : ∀ e ∈ members, (box' e.id).y = (box e.id).y + c) :
    places box' members = (places box members).map (· + c) := by
  rw [places, places, List.map_map]
  exact List.map_congr_left h

/-- A lane is as high wherever its elements are. -/
theorem Moved.laneHeight_eq {band : Band.Lane} (h : Moved box box' band.members) :
    laneHeight config box' band = laneHeight config box band := by
  obtain ⟨c, hc⟩ := h
  rw [laneHeight, places_of_moved hc, span_map_add, laneHeight]

/-- The nodes of a lane are the same wherever its elements are. -/
theorem Moved.laneNodes_eq {band : Band.Lane} (h : Moved box box' band.members)
    (hx : ∀ id, (box' id).x = (box id).x) (gridWidth : Rat) (parent : String) (top : Rat) :
    laneNodes config box' gridWidth parent top band =
      laneNodes config box gridWidth parent top band := by
  have hheight : laneHeight config box' band = laneHeight config box band := h.laneHeight_eq
  obtain ⟨c, hc⟩ := h
  rw [laneNodes, laneNodes, hheight]
  refine congrArg _ (List.map_congr_left fun e he => ?_)
  -- the middle of the elements moves along with each of them
  have hplace : (box e.id).y ∈ places box band.members := List.mem_map_of_mem he
  have hy : (box' e.id).y - centre (places box' band.members) =
      (box e.id).y - centre (places box band.members) := by
    rw [places_of_moved hc, centre_map_add (List.ne_nil_of_mem hplace), hc e he,
      add_sub_add_right_eq_sub]
  simp only [hy, hx]

theorem lanesNodes_eq_of_moved (hx : ∀ id, (box' id).x = (box id).x) {bands : List Band.Lane}
    (h : ∀ band ∈ bands, Moved box box' band.members) (gridWidth : Rat) (parent : String)
    (top : Rat) :
    lanesNodes config box' gridWidth parent top bands =
      lanesNodes config box gridWidth parent top bands := by
  induction bands generalizing top with
  | nil => rfl
  | cons band rest ih =>
    have hband := h band (.head _)
    rw [lanesNodes, lanesNodes, hband.laneNodes_eq hx, hband.laneHeight_eq,
      ih fun band' hband' => h band' (.tail _ hband')]

variable {content : Band.Content}
  (h : ∀ lanes, content = .lanes lanes → ∀ band ∈ lanes, Moved box box' band.members)

include h

theorem poolHeight_eq_of_moved :
    poolHeight config box' content = poolHeight config box content := by
  cases content with
  | lanes bands =>
    have hheights : bands.map (laneHeight config box') = bands.map (laneHeight config box) :=
      List.map_congr_left fun band hband => (h bands rfl band hband).laneHeight_eq
    rw [poolHeight, hheights, poolHeight]
  | row members => rfl

theorem contentNodes_eq_of_moved (hx : ∀ id, (box' id).x = (box id).x) (gridWidth : Rat)
    (parent : String) :
    contentNodes config box' gridWidth parent content =
      contentNodes config box gridWidth parent content := by
  cases content with
  | lanes bands => exact lanesNodes_eq_of_moved hx (h bands rfl) gridWidth parent _
  | row members =>
    refine List.map_congr_left fun e _ => ?_
    simp only [hx]

omit h

/-- The nodes of all bands are the same wherever the elements of each lane are. -/
theorem nodes_eq_of_moved (hx : ∀ id, (box' id).x = (box id).x) {bands : List Band.Pool}
    (h : ∀ pool ∈ bands, ∀ lanes, pool.content = .lanes lanes →
      ∀ band ∈ lanes, Moved box box' band.members) (gridWidth : Rat) :
    nodes config box' gridWidth bands = nodes config box gridWidth bands := by
  suffices ∀ top : Rat, nodesFrom config box' gridWidth top bands =
      nodesFrom config box gridWidth top bands from this _
  induction bands with
  | nil => exact fun _ => rfl
  | cons pool rest ih =>
    intro top
    have hpool := h pool (.head _)
    rw [nodesFrom, nodesFrom, poolNodes, poolNodes, poolHeight_eq_of_moved hpool,
      contentNodes_eq_of_moved hpool hx, ih fun pool' hpool' => h pool' (.tail _ hpool')]

end Grid

/-! ### Two results of a solver -/

/-- What stands in the band of a lane belongs to that lane. -/
theorem Document.mem_membersOf_of_mem_bands {d : Document} {pool : Band.Pool}
    (hpool : pool ∈ d.bands) {lanes : List Band.Lane} (hcontent : pool.content = .lanes lanes)
    {lane : Band.Lane} (hlane : lane ∈ lanes) {e : Element} (he : e ∈ lane.members) :
    e ∈ d.membersOf (.lane pool.label lane.label) := by
  have hshelf : lane.shelf pool.label ∈ d.shelves := by
    refine List.mem_flatMap.2 ⟨pool, hpool, ?_⟩
    rw [Band.Pool.shelves, hcontent]
    exact .tail _ (List.mem_map_of_mem hlane)
  rw [membersOf_eq_filter]
  exact List.mem_filter.2 ⟨mem_uniqueElements_of_mem_shelves hshelf he,
    decide_eq_true (bucketOf_of_mem_shelves hshelf he)⟩

/-- Two results of a solver that place the same nodes, none twice, each as far to the right and as
wide in one as in the other, where the elements of every lane are lower by one distance in the
second. -/
structure Document.MovedByLane (d : Document) (boxes boxes' : List (String × Box Rat)) : Prop where
  nodup : (boxes.map (·.1)).Nodup
  nodup' : (boxes'.map (·.1)).Nodup
  across : ∀ id, (boxes'.lookup id).map (fun b => (b.x, b.width)) =
    (boxes.lookup id).map fun b => (b.x, b.width)
  lanes : ∀ pool name, ∃ c, ∀ e ∈ d.membersOf (.lane pool name), ∀ a b,
    boxes.lookup e.id = some a → boxes'.lookup e.id = some b → b.y = a.y + c

namespace Document.MovedByLane

variable {d : Document} {boxes boxes' : List (String × Box Rat)} (h : d.MovedByLane boxes boxes')

include h

theorem isNone_lookup (id : String) : (boxes'.lookup id).isNone = (boxes.lookup id).isNone := by
  have hmap := congrArg Option.isNone (h.across id)
  rwa [Option.isNone_map, Option.isNone_map] at hmap

theorem exists_lookup {id : String} {a : Box Rat} (ha : boxes.lookup id = some a) :
    ∃ b, boxes'.lookup id = some b ∧ b.x = a.x ∧ b.width = a.width := by
  have hmap := h.across id
  rw [ha] at hmap
  obtain ⟨b, hb, heq⟩ := Option.map_eq_some_iff.1 hmap
  exact ⟨b, hb, congrArg Prod.fst heq, congrArg Prod.snd heq⟩

theorem boxOf_x (id : String) : (Layout.boxOf boxes' id).x = (Layout.boxOf boxes id).x := by
  cases ha : boxes.lookup id with
  | none =>
    have hb : boxes'.lookup id = none := by
      rw [← Option.isNone_iff_eq_none, h.isNone_lookup, ha]
      rfl
    rw [Layout.boxOf, hb, Layout.boxOf, ha]
  | some a =>
    obtain ⟨b, hb, hx, -⟩ := h.exists_lookup ha
    rw [Layout.boxOf_of_lookup ha, Layout.boxOf_of_lookup hb, hx]

/-- Every right side of the first result is one of the second. -/
theorem rightEdge_mem {x : Rat} (hx : x ∈ boxes.map (·.2.rightEdge)) :
    x ∈ boxes'.map (·.2.rightEdge) := by
  obtain ⟨⟨id, a⟩, hmem, rfl⟩ := List.mem_map.1 hx
  obtain ⟨b, hb, hx, hwidth⟩ := h.exists_lookup (Table.lookup_eq_some_of_mem h.nodup hmem)
  refine List.mem_map.2 ⟨(id, b), Table.mem_of_lookup_eq_some hb, ?_⟩
  show b.rightEdge = a.rightEdge
  rw [Box.rightEdge, hx, hwidth, Box.rightEdge]

omit h in
theorem symm (h : d.MovedByLane boxes boxes') : d.MovedByLane boxes' boxes where
  nodup := h.nodup'
  nodup' := h.nodup
  across id := (h.across id).symm
  lanes pool name := by
    obtain ⟨c, hc⟩ := h.lanes pool name
    refine ⟨-c, fun e he b a hb ha => ?_⟩
    rw [hc e he a b ha hb, add_neg_cancel_right]

theorem width_eq (config : Grid.Config Rat) :
    Grid.width config boxes' = Grid.width config boxes := by
  rw [Grid.width, largest_congr fun _ => ⟨h.symm.rightEdge_mem, h.rightEdge_mem⟩, Grid.width]

/-- Where every element is placed, the elements in the band of a lane are moved. -/
theorem moved (hplaced : ∀ e ∈ d.uniqueElements, (boxes.lookup e.id).isSome) {pool : Band.Pool}
    (hpool : pool ∈ d.bands) {lanes : List Band.Lane} (hcontent : pool.content = .lanes lanes)
    {lane : Band.Lane} (hlane : lane ∈ lanes) :
    Grid.Moved (Layout.boxOf boxes) (Layout.boxOf boxes') lane.members := by
  obtain ⟨c, hc⟩ := h.lanes pool.label lane.label
  refine ⟨c, fun e he => ?_⟩
  have hmember := mem_membersOf_of_mem_bands hpool hcontent hlane he
  have hunique : e ∈ d.uniqueElements := by
    rw [membersOf_eq_filter] at hmember
    exact List.mem_of_mem_filter hmember
  obtain ⟨a, ha⟩ := Option.isSome_iff_exists.1 (hplaced e hunique)
  obtain ⟨b, hb, -⟩ := h.exists_lookup ha
  rw [Layout.boxOf_of_lookup ha, Layout.boxOf_of_lookup hb, hc e hmember a b ha hb]

/-- Results that are moved by lanes are composed alike. -/
theorem compose_eq (hplaced : ∀ e ∈ d.uniqueElements, (boxes.lookup e.id).isSome)
    {l l' : Layout Rat} (hconfig : l'.config = l.config) :
    l'.compose d boxes' = l.compose d boxes := by
  have hnodes (width : Rat) : Grid.nodes l.config (Layout.boxOf boxes') width d.bands =
      Grid.nodes l.config (Layout.boxOf boxes) width d.bands :=
    Grid.nodes_eq_of_moved h.boxOf_x
      (fun _ hpool _ hcontent _ hlane => h.moved hplaced hpool hcontent hlane) width
  simp only [Layout.compose, hconfig, h.width_eq, hnodes]

/-- Layouts with the same constants, whose solvers give results that are moved by lanes, have the
same diagram of a document, or lack the same element. -/
theorem diagram_eq {l l' : Layout Rat} (hconfig : l'.config = l.config)
    (hsolver : l.solver (d.flowGraph.map whole) = .ok boxes)
    (hsolver' : l'.solver (d.flowGraph.map whole) = .ok boxes') : l'.diagram d = l.diagram d := by
  rw [Layout.diagram, Layout.diagram, Layout.boxes, Layout.boxes, hsolver, hsolver']
  simp only [h.isNone_lookup]
  cases hfound : d.flowGraph.ids.find? fun id => (boxes.lookup id).isNone with
  | some id => simp only [Except.map]
  | none =>
    have hplaced : ∀ e ∈ d.uniqueElements, (boxes.lookup e.id).isSome :=
      fun e he => Layout.isSome_lookup_of_find?_eq_none hfound he
    simp only [Except.map, h.compose_eq hplaced hconfig]

end Document.MovedByLane

/-! ### Bands with their elements -/

namespace Node

variable {α : Type}

/-- The bands among nodes, each with the nodes behind it up to the next band. -/
def shelves (nodes : List (Node α)) : List (Node α × List (Node α)) := groups (·.kind.isBand) nodes

/-- The line through the middle of a node, at which its edges end. -/
def midLine [Scalar α] (n : Node α) : α := n.position.y + half n.extent.height

end Node

namespace Grid

/-- The nodes of the elements of a shelf. -/
def Shelf.elements {α : Type} (s : Shelf α) : List (Node α) :=
  s.members.map fun e => elementNode e (s.position e) s.band.id

/-- The bands among the nodes of shelves are those of the shelves. -/
theorem shelves_flatMap_nodes {α : Type} {shelves : List (Shelf α)}
    (h : ∀ s ∈ shelves, s.band.kind.isBand = true) :
    Node.shelves (shelves.flatMap Shelf.nodes) = shelves.map fun s => (s.band, s.elements) := by
  induction shelves with
  | nil => rfl
  | cons s rest ih =>
    have helements : ∀ n ∈ s.elements, n.kind.isBand = false := by
      intro n hn
      obtain ⟨e, -, rfl⟩ := List.mem_map.1 hn
      rfl
    have hhead : ∀ n ∈ (rest.flatMap Shelf.nodes).head?, n.kind.isBand = true := by
      cases rest with
      | nil => exact fun _ hn => nomatch hn
      | cons t rest =>
        rintro n ⟨⟩
        exact h t (.tail _ (.head _))
    rw [List.map_cons, ← ih fun t ht => h t (.tail _ ht)]
    exact Node.groups_cons_append (h s (.head _)) helements hhead

theorem midLine_elementNode {α : Type} [Scalar α] (e : Element) (position : Point α)
    (parent : String) :
    (elementNode e position parent).midLine = position.y + anchorOffset e.kind :=
  rfl

end Grid

/-- Elements around the middle of a band: halfway between the highest and the lowest of their middle
lines is the middle of the band, and the lines are as far apart as the places that a solver gave. -/
structure Node.Centred (boxes : List (String × Box Rat)) (band : Node Rat)
    (members : List (Node Rat)) : Prop where
  middle : ∃ top ∈ members, ∃ bottom ∈ members,
    (∀ n ∈ members, top.midLine ≤ n.midLine ∧ n.midLine ≤ bottom.midLine) ∧
      (top.midLine + bottom.midLine) / 2 = band.extent.height / 2
  apart : ∀ m ∈ members, ∀ n ∈ members, ∃ a b, boxes.lookup m.id = some a ∧
    boxes.lookup n.id = some b ∧ m.midLine - n.midLine = a.y - b.y

namespace Grid

variable {config : Config Rat} {box : String → Box Rat} {gridWidth : Rat} {pool : Node Rat}
  {top : Rat} {band : Band.Lane}

/-- The middle line of an element in a lane, whatever its kind. -/
theorem midLine_laneShelf (e : Element) (parent : String) :
    (elementNode e ((laneShelf config box gridWidth pool top band).position e) parent).midLine =
      half (laneHeight config box band) + ((box e.id).y - centre (places box band.members)) := by
  rw [midLine_elementNode]
  show half (laneHeight config box band) + ((box e.id).y - centre (places box band.members)) -
    anchorOffset e.kind + anchorOffset e.kind = _
  rw [sub_add_cancel]

/-- The elements of a lane stand around its middle. -/
theorem centred_laneShelf {boxes : List (String × Box Rat)}
    (hplaced : ∀ e ∈ band.members, (boxes.lookup e.id).isSome) (hne : band.members ≠ []) :
    let s := laneShelf config (Layout.boxOf boxes) gridWidth pool top band
    s.band.Centred boxes s.elements := by
  intro s
  have hplaces : places (Layout.boxOf boxes) band.members ≠ [] := by
    rwa [places, ne_eq, List.map_eq_nil_iff]
  refine ⟨?middle, ?apart⟩
  case middle =>
    obtain ⟨e, he, hsmallest⟩ := List.mem_map.1 (smallest_mem hplaces (whole 0))
    obtain ⟨f, hf, hlargest⟩ := List.mem_map.1 (largest_mem hplaces (whole 0))
    refine ⟨_, List.mem_map_of_mem he, _, List.mem_map_of_mem hf, ?_, ?_⟩
    · intro n hn
      obtain ⟨g, hg, rfl⟩ := List.mem_map.1 hn
      have hplace : (Layout.boxOf boxes g.id).y ∈ places (Layout.boxOf boxes) band.members :=
        List.mem_map_of_mem hg
      have hleast := smallest_le hplace (whole 0)
      have hgreatest := le_largest hplace (whole 0)
      rw [midLine_laneShelf, midLine_laneShelf, midLine_laneShelf, hsmallest, hlargest]
      exact ⟨by linarith, by linarith⟩
    · -- the middle of the places is halfway between the least and the greatest of them
      have hheight : s.band.extent.height = laneHeight config (Layout.boxOf boxes) band := rfl
      rw [midLine_laneShelf, midLine_laneShelf, hsmallest, hlargest, hheight, centre, half_eq,
        half_eq]
      linarith
  case apart =>
    intro m hm n hn
    obtain ⟨e, he, rfl⟩ := List.mem_map.1 hm
    obtain ⟨f, hf, rfl⟩ := List.mem_map.1 hn
    obtain ⟨a, ha⟩ := Option.isSome_iff_exists.1 (hplaced e he)
    obtain ⟨b, hb⟩ := Option.isSome_iff_exists.1 (hplaced f hf)
    refine ⟨a, b, ha, hb, ?_⟩
    rw [midLine_laneShelf, midLine_laneShelf, Layout.boxOf_of_lookup ha, Layout.boxOf_of_lookup hb]
    linarith

end Grid

/-! ### What a diagram keeps of vertical places -/

namespace Layout

variable {l : Layout Rat} {d : Document} {boxes : List (String × Box Rat)}

theorem shelves_compose :
    Node.shelves (l.compose d boxes).nodes =
      (Grid.shelves l.config (boxOf boxes) (Grid.width l.config boxes) d.bands).map
        fun s => (s.band, s.elements) := by
  rw [compose, Grid.nodes_eq_flatMap]
  exact Grid.shelves_flatMap_nodes fun s hs => Grid.isBand_of_mem_shelves hs

/-- The elements of every lane stand around its middle. -/
theorem centred_compose (hplaced : ∀ e ∈ d.uniqueElements, (boxes.lookup e.id).isSome)
    {s : Node Rat × List (Node Rat)} (hs : s ∈ Node.shelves (l.compose d boxes).nodes)
    (hlane : s.1.kind = .lane) (hne : s.2 ≠ []) : s.1.Centred boxes s.2 := by
  rw [shelves_compose] at hs
  obtain ⟨s, hmem, rfl⟩ := List.mem_map.1 hs
  have hunique : ∀ e ∈ s.members, (boxes.lookup e.id).isSome :=
    fun e he => hplaced e (Grid.mem_uniqueElements_of_mem_members hmem he)
  have hmembers : s.members ≠ [] := fun hnil => hne (by simp [Grid.Shelf.elements, hnil])
  rcases Grid.mem_shelves hmem with ⟨_, _, rfl⟩ | ⟨_, _, _, -, -, _, lane, -, rfl⟩
  · cases hlane
  · exact Grid.centred_laneShelf hunique hmembers

/-- A lane to which elements belong has a band with all of them. -/
theorem exists_shelf_compose {pool name : String} (h : d.membersOf (.lane pool name) ≠ []) :
    ∃ s ∈ Node.shelves (l.compose d boxes).nodes, s.1.kind = .lane ∧ s.1.label = name ∧
      s.2.map (·.id) = (d.membersOf (.lane pool name)).map (·.id) := by
  obtain ⟨b, hb, hbucket, hmembers⟩ := Document.exists_mem_shelves h
  have hkey : (Grid.shelves l.config (boxOf boxes) (Grid.width l.config boxes) d.bands).map
      Grid.Shelf.key = d.shelves.map fun b => (some b.bucket, b.members) :=
    Grid.Shelf.map_key (Grid.shows_shelves _ _ _ _)
  have hmem := List.mem_map_of_mem (f := fun b : Band.Shelf => (some b.bucket, b.members)) hb
  rw [← hkey, hbucket, hmembers] at hmem
  obtain ⟨s, hs, hskey⟩ := List.mem_map.1 hmem
  obtain ⟨hsbucket, hsmembers⟩ := Prod.ext_iff.1 hskey
  refine ⟨(s.band, s.elements), ?_, ?_⟩
  · rw [shelves_compose]
    exact List.mem_map_of_mem hs
  · have hids : s.elements.map (·.id) = s.members.map (·.id) := by
      rw [Grid.Shelf.elements, List.map_map]
      rfl
    rcases Grid.mem_shelves hs with ⟨_, pool', rfl⟩ | ⟨_, _, _, -, -, _, lane, -, rfl⟩
    · -- the band of a pool stands for no lane
      have hpool : Bucket.ofPoolBand pool'.id pool'.label = .lane pool name :=
        Option.some.inj hsbucket
      rw [Bucket.ofPoolBand] at hpool
      split at hpool <;> cases hpool
    · cases hsbucket
      exact ⟨rfl, rfl, hids.trans (congrArg _ hsmembers)⟩

/-- **Vertical places count within a lane only**: a second solver that moves the elements of every
lane by a distance of their own, and gives other heights and other vertical places outside lanes,
comes to the same diagram. In every lane with elements, the middle between their highest and their
lowest middle line is the middle of the band, and middle lines are as far apart as the solver placed
them, whatever the kinds of the elements. -/
theorem diagram_relative (hsolver : l.solver (d.flowGraph.map whole) = .ok boxes) :
    (∀ (l' : Layout Rat) (boxes' : List (String × Box Rat)), l'.config = l.config →
        l'.solver (d.flowGraph.map whole) = .ok boxes' → d.MovedByLane boxes boxes' →
        l'.diagram d = l.diagram d) ∧
      ∀ diagram, l.diagram d = .ok diagram →
        (∀ s ∈ Node.shelves diagram.nodes, s.1.kind = .lane → s.2 ≠ [] → s.1.Centred boxes s.2) ∧
        ∀ pool name, d.membersOf (.lane pool name) ≠ [] →
          ∃ s ∈ Node.shelves diagram.nodes, s.1.kind = .lane ∧ s.1.label = name ∧
            s.2.map (·.id) = (d.membersOf (.lane pool name)).map (·.id) := by
  refine ⟨fun l' boxes' hconfig hsolver' hmoved => hmoved.diagram_eq hconfig hsolver hsolver', ?_⟩
  intro diagram hdiagram
  obtain ⟨boxes₀, hsolved, hplaced, rfl⟩ := exists_solved_of_diagram hdiagram
  obtain rfl : boxes = boxes₀ := Except.ok.inj (hsolver.symm.trans hsolved)
  exact ⟨fun s hs => centred_compose hplaced hs, fun pool name => exists_shelf_compose⟩

/-- Two lanes, of which the first holds an activity and an event, and a pool without lanes. -/
def counter : Document where
  pools := [⟨"Shop"⟩, ⟨"Bank"⟩]
  lanes := [⟨"Shop", "Desk"⟩, ⟨"Shop", "Store"⟩]
  elements := [
    ⟨"take", "Desk", "Take", .activity, none, []⟩,
    ⟨"done", "Desk", "Done", .event, none, []⟩,
    ⟨"pack", "Store", "Pack", .activity, none, []⟩,
    ⟨"pay", "Bank", "Pay", .activity, none, []⟩]
  connections := []

/-- Places for its elements. -/
def counterBoxes : List (String × Box Rat) :=
  [("take", ⟨80, 10, 140, 60⟩), ("done", ⟨300, 90, 50, 50⟩), ("pack", ⟨80, 40, 140, 60⟩),
    ("pay", ⟨300, 20, 140, 60⟩)]

/-- The places with the first lane lower, the second one higher, and the rest anywhere. -/
def counterBoxesMoved : List (String × Box Rat) :=
  [("take", ⟨80, 15, 140, 0⟩), ("done", ⟨300, 95, 50, 1⟩), ("pack", ⟨80, 0, 140, 2⟩),
    ("pay", ⟨300, -7, 140, 3⟩)]

theorem movedByLane_counter : counter.MovedByLane counterBoxes counterBoxesMoved where
  nodup := by decide
  nodup' := by decide
  across id := by
    simp only [counterBoxes, counterBoxesMoved, List.lookup_cons, List.lookup_nil]
    cases id == "take" <;> cases id == "done" <;> cases id == "pack" <;> cases id == "pay" <;> rfl
  lanes pool name := by
    have hmoved : ∀ e ∈ counter.uniqueElements, ∀ l ∈ counter.lanes, counter.bucketOf e = l.bucket →
        (counterBoxesMoved.lookup e.id).map (·.y) =
          (counterBoxes.lookup e.id).map (·.y + if l.name = "Desk" then 5 else -40) := by
      decide +kernel
    refine ⟨if name = "Desk" then 5 else -40, fun e he a b ha hb => ?_⟩
    rw [Document.membersOf_eq_filter] at he
    obtain ⟨hunique, hbucket⟩ := List.mem_filter.1 he
    have hbucket : counter.bucketOf e = .lane pool name := of_decide_eq_true hbucket
    rcases counter.bucketOf_cases e with ⟨l, hl, hlane⟩ | ⟨-, -, hroot⟩ | ⟨-, -, hnone⟩
    · cases hlane.symm.trans hbucket
      have hy := hmoved e hunique l hl hlane
      rw [ha, hb] at hy
      exact Option.some.inj hy
    · cases hroot.symm.trans hbucket
    · cases hnone.symm.trans hbucket

/-- The solver that gives fixed places. -/
def fixed (boxes : List (String × Box Rat)) : Layout Rat := ⟨.standard, fun _ => .ok boxes⟩

theorem diagram_relative_counter :
    (fixed counterBoxes).solver (counter.flowGraph.map whole) = .ok counterBoxes ∧
      (fixed counterBoxesMoved).solver (counter.flowGraph.map whole) = .ok counterBoxesMoved ∧
      counter.MovedByLane counterBoxes counterBoxesMoved ∧
      (fixed counterBoxesMoved).diagram counter = (fixed counterBoxes).diagram counter ∧
      ∃ diagram, (fixed counterBoxes).diagram counter = .ok diagram ∧
        ∃ s ∈ Node.shelves diagram.nodes, s.1.kind = .lane ∧ s.2.map (·.id) = ["take", "done"] ∧
          s.1.Centred counterBoxes s.2 := by
  have hmoved := movedByLane_counter
  obtain ⟨hsame, hkept⟩ := diagram_relative (l := fixed counterBoxes) (d := counter) rfl
  have hplaces : (fixed counterBoxes).Places counter := ⟨counterBoxes, rfl, by decide⟩
  obtain ⟨boxes, hdiagram⟩ := exists_diagram_of_places hplaces
  obtain ⟨hcentred, hlanes⟩ := hkept _ hdiagram
  obtain ⟨s, hs, hlane, -, hids⟩ := hlanes "Shop" "Desk" (by decide)
  have hmembers : (counter.membersOf (.lane "Shop" "Desk")).map (·.id) = ["take", "done"] := by
    decide
  have hne : s.2 ≠ [] := fun hnil => by simp [hnil, hmembers] at hids
  exact ⟨rfl, rfl, hmoved, hsame _ _ rfl rfl hmoved, _, hdiagram, s, hs, hlane,
    hids.trans hmembers, hcentred s hs hlane hne⟩

end Layout

end Swimlane
