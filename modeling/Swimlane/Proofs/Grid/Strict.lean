import Swimlane.Proofs.Grid.Conservation
import Swimlane.Proofs.Grid.Groups
import Swimlane.Proofs.Settings.Bounds

/-!
# The strict grid

All bands have one width. Pools stand one below another with a gap, lanes fill their pool from its
top, and the heights of the lanes add up to that of the pool. So bands do not overlap, whatever
settings are accepted.

- `Node.sections`: the pools among nodes, each with the nodes behind it.
- `Node.Stacked`: nodes one below another.
- `Diagram.StrictGrid`: a diagram whose bands stand in this way.
- `Diagram.Apart`: a diagram in which no two lanes of a pool and no two pools overlap.
- `Diagram.StrictGrid.apart`: a strict grid without negative lengths is one.
- `Layout.diagram_strictGrid`: every diagram is a strict grid, whatever solver has placed the
  elements.
-/

namespace Swimlane

open Scalar

variable {α : Type}

namespace Node

/-- The pools among nodes, each with the nodes behind it up to the next pool. -/
def sections : List (Node α) → List (Node α × List (Node α))
  | [] => []
  | n :: rest =>
    if n.kind = .pool then (n, rest.takeWhile (·.kind ≠ .pool)) :: sections rest else sections rest

/-- The pools among nodes. -/
def pools (nodes : List (Node α)) : List (Node α) := nodes.filter (·.kind = .pool)

/-- The lanes among nodes. -/
def lanes (nodes : List (Node α)) : List (Node α) := nodes.filter (·.kind = .lane)

/-! ### Sections -/

/-- Sections are the groups that pools open. -/
theorem sections_eq_groups (nodes : List (Node α)) :
    sections nodes = groups (·.kind = .pool) nodes := by
  induction nodes with
  | nil => rfl
  | cons n rest ih => simp only [sections, groups, ih, ne_eq, decide_not, decide_eq_true_eq]

/-- What stands in front of the first pool and the sections are all nodes. -/
theorem takeWhile_append_sections (nodes : List (Node α)) :
    nodes.takeWhile (·.kind ≠ .pool) ++ (sections nodes).flatMap (fun s => s.1 :: s.2) = nodes := by
  have hgroups := takeWhile_append_groups (·.kind = .pool) nodes
  rw [← sections_eq_groups] at hgroups
  simpa only [ne_eq, decide_not] using hgroups

theorem map_fst_sections (nodes : List (Node α)) : (sections nodes).map (·.1) = pools nodes := by
  rw [sections_eq_groups, map_fst_groups, pools]

/-- A pool with what it holds is a section, if another pool or nothing comes next. -/
theorem sections_cons_append {pool : Node α} (hpool : pool.kind = .pool) {nodes : List (Node α)}
    (h : ∀ n ∈ nodes, n.kind ≠ .pool) {rest : List (Node α)}
    (hrest : ∀ n ∈ rest.head?, n.kind = .pool) :
    sections (pool :: (nodes ++ rest)) = (pool, nodes) :: sections rest := by
  rw [sections_eq_groups, sections_eq_groups]
  exact groups_cons_append (decide_eq_true hpool) (fun n hn => decide_eq_false (h n hn))
    fun n hn => decide_eq_true (hrest n hn)

variable [Scalar α]

/-- The lower side of a node, counted like its position. -/
def bottom (n : Node α) : α := n.position.y + n.extent.height

/-- Nodes one below another: the first begins at zero, and each other one where the one before
leaves off. -/
structure Stacked (leavesOff : Node α → α) (nodes : List (Node α)) : Prop where
  first : ∀ n ∈ nodes.head?, n.position.y = whole 0
  next : nodes.IsChain fun m n => n.position.y = leavesOff m

/-- What is built from a running offset, which moves on from each node to where it leaves off, is
a stack. -/
theorem stacked_of_cons {ι : Type} {leavesOff : Node α → α} {build : α → List ι → List (Node α)}
    (hnil : ∀ top, build top [] = [])
    (hcons : ∀ top i rest, ∃ n, build top (i :: rest) = n :: build (leavesOff n) rest ∧
      n.position.y = top) (items : List ι) : Stacked leavesOff (build (whole 0) items) where
  first := by
    cases items with
    | nil =>
      rw [hnil]
      exact fun _ hn => nomatch hn
    | cons i rest =>
      obtain ⟨n, hbuild, hn⟩ := hcons (whole 0) i rest
      rw [hbuild]
      rintro _ ⟨⟩
      exact hn
  next := by
    generalize (whole 0 : α) = top
    induction items generalizing top with
    | nil =>
      rw [hnil]
      exact .nil
    | cons i rest ih =>
      obtain ⟨m, hbuild, -⟩ := hcons top i rest
      rw [hbuild]
      cases rest with
      | nil =>
        rw [hnil]
        exact .singleton _
      | cons j rest =>
        obtain ⟨n, hbuild, hn⟩ := hcons (leavesOff m) j rest
        have hrest := ih (leavesOff m)
        rw [hbuild] at hrest ⊢
        exact List.isChain_cons_cons.2 ⟨hn, hrest⟩

/-- A point that lies strictly between the sides of a node, counted like its position. -/
def Covers (n : Node α) (p : Point α) : Prop :=
  (below n.position.x p.x = true ∧ below p.x (n.position.x + n.extent.width) = true) ∧
    below n.position.y p.y = true ∧ below p.y n.bottom = true

/-- Two nodes with the same parent, or without one, have a point in common. -/
def Overlaps (m n : Node α) : Prop := ∃ p, m.Covers p ∧ n.Covers p

variable (h : Ordered α)

include h

/-- Nodes one above the other do not overlap. -/
theorem not_overlaps_of_bottom {m n : Node α} (hmn : atMost m.bottom n.position.y = true) :
    ¬ m.Overlaps n := by
  rintro ⟨p, ⟨-, -, hbottom⟩, -, htop, -⟩
  exact h.not_atMost_of_below htop (h.trans (h.atMost_of_below hbottom) hmn)

/-- In a stack, each node ends before every later one begins. -/
theorem Stacked.bottom_le {leavesOff : Node α → α} {nodes : List (Node α)}
    (hnodes : Stacked leavesOff nodes)
    (hheight : ∀ n ∈ nodes, atMost (whole 0) n.extent.height = true)
    (hleaves : ∀ n ∈ nodes, atMost (whole 0) n.bottom = true →
      atMost n.bottom (leavesOff n) = true) :
    nodes.Pairwise fun m n => atMost m.bottom n.position.y = true := by
  obtain ⟨hfirst, hchain⟩ := hnodes
  have hstart : ∀ n ∈ nodes.head?, atMost (whole 0) n.position.y = true := fun n hn => by
    rw [hfirst n hn]
    exact h.whole_nonneg 0
  clear hfirst
  induction nodes with
  | nil => exact .nil
  | cons m rest ih =>
    cases rest with
    | nil => exact List.pairwise_singleton _ _
    | cons n rest =>
      obtain ⟨hn, hchain⟩ := List.isChain_cons_cons.1 hchain
      have hbottom : atMost (whole 0) m.bottom = true :=
        h.add_nonneg (hstart m rfl) (hheight m (.head _))
      have hnext : atMost m.bottom n.position.y = true := by
        rw [hn]
        exact hleaves m (.head _) hbottom
      have hzero : atMost (whole 0) n.position.y = true := h.trans hbottom hnext
      have hlater := ih (fun u hu => hheight u (.tail _ hu)) (fun u hu => hleaves u (.tail _ hu))
        hchain (by rintro _ ⟨⟩; exact hzero)
      refine .cons (fun u hu => ?_) hlater
      rcases List.mem_cons.1 hu with rfl | hu
      · exact hnext
      · -- the next node lies between
        have hn' : atMost n.position.y n.bottom = true :=
          h.atMost_add hzero (hheight n (.tail _ (.head _)))
        exact h.trans (h.trans hnext hn') ((List.pairwise_cons.1 hlater).1 u hu)

end Node

namespace Diagram

variable [Scalar α]

/-- A diagram whose bands stand in a strict grid with the given constants. -/
structure StrictGrid (diagram : Diagram α) (config : Grid.Config α) : Prop where
  covered : (Node.sections diagram.nodes).flatMap (fun s => s.1 :: s.2) = diagram.nodes
  poolWidth : ∀ n ∈ diagram.nodes, n.kind = .pool →
    n.extent.width = diagram.gridWidth + config.headerWidth
  laneWidth : ∀ n ∈ diagram.nodes, n.kind = .lane → n.extent.width = diagram.gridWidth
  pools : Node.Stacked (fun n => n.bottom + config.poolGap) (Node.pools diagram.nodes)
  lanes : ∀ s ∈ Node.sections diagram.nodes, Node.Stacked Node.bottom (Node.lanes s.2)
  parents : ∀ s ∈ Node.sections diagram.nodes, ∀ n ∈ Node.lanes s.2, n.parent = some s.1.id
  poolHeight : ∀ s ∈ Node.sections diagram.nodes, s.1.extent.height =
    if Node.lanes s.2 = [] then config.rowHeight
    else total ((Node.lanes s.2).map (·.extent.height))
  laneHeight : ∀ n ∈ diagram.nodes, n.kind = .lane →
    ∃ wanted, n.extent.height = larger config.laneMinHeight wanted

/-- No two pools overlap, and no two lanes of one pool. -/
structure Apart (diagram : Diagram α) : Prop where
  pools : (Node.pools diagram.nodes).Pairwise fun m n => ¬ m.Overlaps n
  lanes : ∀ s ∈ Node.sections diagram.nodes,
    (Node.lanes s.2).Pairwise fun m n => ¬ m.Overlaps n

variable {diagram : Diagram α} {config : Grid.Config α}

theorem StrictGrid.mem_nodes (hgrid : diagram.StrictGrid config) {s : Node α × List (Node α)}
    (hs : s ∈ Node.sections diagram.nodes) {n : Node α} (hn : n ∈ s.2) : n ∈ diagram.nodes := by
  rw [← hgrid.covered]
  exact List.mem_flatMap.2 ⟨s, hs, .tail _ hn⟩

/-- In a strict grid without negative lengths, bands do not overlap. -/
theorem StrictGrid.apart (hgrid : diagram.StrictGrid config) (h : Ordered α)
    (hconfig : config.NonNegative) : diagram.Apart := by
  have hlane : ∀ s ∈ Node.sections diagram.nodes, ∀ n ∈ Node.lanes s.2,
      atMost (whole 0) n.extent.height = true := by
    intro s hs n hn
    obtain ⟨hn, hkind⟩ := List.mem_filter.1 hn
    obtain ⟨wanted, hheight⟩ :=
      hgrid.laneHeight n (hgrid.mem_nodes hs hn) (of_decide_eq_true hkind)
    rw [hheight]
    exact h.larger_nonneg hconfig.laneMinHeight wanted
  have hpool : ∀ n ∈ Node.pools diagram.nodes, atMost (whole 0) n.extent.height = true := by
    intro n hn
    rw [← Node.map_fst_sections] at hn
    obtain ⟨s, hs, rfl⟩ := List.mem_map.1 hn
    rw [hgrid.poolHeight s hs]
    by_cases hlanes : Node.lanes s.2 = []
    · rw [if_pos hlanes]
      exact hconfig.rowHeight
    · rw [if_neg hlanes]
      refine h.total_nonneg fun height hheight => ?_
      obtain ⟨n, hn, rfl⟩ := List.mem_map.1 hheight
      exact hlane s hs n hn
  constructor
  · have hstack := hgrid.pools.bottom_le h hpool fun n _ hbottom =>
      h.atMost_add hbottom hconfig.poolGap
    exact hstack.imp (Node.not_overlaps_of_bottom h)
  · intro s hs
    have hstack := (hgrid.lanes s hs).bottom_le h (hlane s hs) fun n _ hbottom =>
      h.refl_right hbottom
    exact hstack.imp (Node.not_overlaps_of_bottom h)

end Diagram

/-! ### The nodes of the grid -/

/-- A pool without lanes holds a row. -/
theorem Band.content_ofPool_ne (members : Bucket → List Element) (c : Claims) (name : String)
    (lanes : List Swimlane.Lane) : (ofPool members c name lanes).1.content ≠ .lanes [] := by
  cases lanes with
  | nil => exact fun h => nomatch h
  | cons lane lanes => exact fun h => nomatch h

namespace Document

theorem content_ne_lanes_nil (d : Document) : ∀ band ∈ d.bands, band.content ≠ .lanes [] := by
  intro band hband
  rcases List.mem_append.1 hband with hband | hband
  · suffices ∀ (earlier : List String) (c : Band.Claims) (names : List String),
        band ∈ Band.ofPools d d.membersOf earlier c names → band.content ≠ .lanes [] from
      this _ _ _ hband
    intro earlier c names
    induction names generalizing earlier c with
    | nil => exact fun h => nomatch h
    | cons name names ih =>
      intro h
      rcases List.mem_cons.1 h with rfl | h
      · exact Band.content_ofPool_ne _ _ _ _
      · exact ih _ _ h
  · by_cases hnone : d.membersOf .unassigned = []
    · rw [if_pos hnone] at hband
      cases hband
    · rw [if_neg hnone] at hband
      obtain rfl := List.mem_singleton.1 hband
      exact fun h => nomatch h

end Document

namespace Grid

variable [Scalar α] {config : Config α} {box : String → Box α} {gridWidth : α}

/-- The pools, each with the nodes that it holds. -/
def poolSections (config : Config α) (box : String → Box α) (gridWidth : α) :
    α → List Band.Pool → List (Node α × List (Node α))
  | _, [] => []
  | top, band :: rest =>
    ((poolShelf config box gridWidth top band).band,
        contentNodes config box gridWidth band.id band.content) ::
      poolSections config box gridWidth
        (top + poolHeight config box band.content + config.poolGap) rest

omit [Scalar α] in
/-- No element is a band. -/
theorem lanes_elements (members : List Element) (position : Element → Point α) (parent : String) :
    Node.lanes (members.map fun e => elementNode e (position e) parent) = [] := by
  refine List.filter_eq_nil_iff.2 fun n hn => ?_
  obtain ⟨e, -, rfl⟩ := List.mem_map.1 hn
  exact of_decide_eq_false rfl

/-- The lanes among the nodes of lanes are their bands. -/
theorem lanes_lanesNodes (pool : Node α) (top : α) (bands : List Band.Lane) :
    Node.lanes (lanesNodes config box gridWidth pool.id top bands) =
      (laneShelves config box gridWidth pool top bands).map (·.band) := by
  induction bands generalizing top with
  | nil => rfl
  | cons band rest ih =>
    have hnodes : Node.lanes (laneNodes config box gridWidth pool.id top band) =
        [(laneShelf config box gridWidth pool top band).band] := by
      rw [laneNodes_eq_nodes, Shelf.nodes, Node.lanes, List.filter_cons_of_pos rfl]
      exact congrArg _ (lanes_elements ..)
    rw [lanesNodes, Node.lanes, List.filter_append]
    exact congrArg₂ (· ++ ·) hnodes (ih _)

/-- What the band of a pool holds has the bands of its lanes in it. -/
theorem lanes_contentNodes (pool : Node α) (content : Band.Content) :
    Node.lanes (contentNodes config box gridWidth pool.id content) =
      (innerShelves config box gridWidth pool content).map (·.band) := by
  cases content with
  | lanes bands => exact lanes_lanesNodes pool (whole 0) bands
  | row members => exact lanes_elements ..

theorem kind_ne_pool_of_mem_lanesNodes {parent : String} {top : α} {bands : List Band.Lane}
    {n : Node α} (hn : n ∈ lanesNodes config box gridWidth parent top bands) : n.kind ≠ .pool := by
  induction bands generalizing top with
  | nil => cases hn
  | cons band rest ih =>
    rcases List.mem_append.1 hn with hn | hn
    · rcases List.mem_cons.1 hn with rfl | hn
      · exact fun h => nomatch h
      · obtain ⟨e, -, rfl⟩ := List.mem_map.1 hn
        exact fun h => nomatch h
    · exact ih hn

/-- No pool stands in another one. -/
theorem kind_ne_pool_of_mem_contentNodes {parent : String} {content : Band.Content} {n : Node α}
    (hn : n ∈ contentNodes config box gridWidth parent content) : n.kind ≠ .pool := by
  cases content with
  | lanes bands => exact kind_ne_pool_of_mem_lanesNodes hn
  | row members =>
    obtain ⟨e, -, rfl⟩ := List.mem_map.1 hn
    exact fun h => nomatch h

/-- The grid begins with a pool. -/
theorem kind_of_mem_head?_nodesFrom {top : α} {bands : List Band.Pool} :
    ∀ n ∈ (nodesFrom config box gridWidth top bands).head?, n.kind = .pool := by
  cases bands with
  | nil => exact fun _ hn => nomatch hn
  | cons band rest =>
    rintro n ⟨⟩
    rfl

/-- The sections of the grid are its pools with what they hold. -/
theorem sections_nodesFrom (top : α) (bands : List Band.Pool) :
    Node.sections (nodesFrom config box gridWidth top bands) =
      poolSections config box gridWidth top bands := by
  induction bands generalizing top with
  | nil => rfl
  | cons band rest ih =>
    have hcontent : ∀ n ∈ contentNodes config box gridWidth band.id band.content,
        n.kind ≠ .pool := fun n hn => kind_ne_pool_of_mem_contentNodes hn
    have hpool : (poolShelf config box gridWidth top band).band.kind = .pool := rfl
    rw [poolSections, ← ih]
    exact Node.sections_cons_append hpool hcontent kind_of_mem_head?_nodesFrom

theorem mem_poolSections {top : α} {bands : List Band.Pool} {s : Node α × List (Node α)}
    (hs : s ∈ poolSections config box gridWidth top bands) :
    ∃ top', ∃ band ∈ bands, s = ((poolShelf config box gridWidth top' band).band,
      contentNodes config box gridWidth band.id band.content) := by
  induction bands generalizing top with
  | nil => cases hs
  | cons band rest ih =>
    rcases List.mem_cons.1 hs with rfl | hs
    · exact ⟨top, band, .head _, rfl⟩
    · obtain ⟨top', band', hband', rfl⟩ := ih hs
      exact ⟨top', band', .tail _ hband', rfl⟩

/-- Pools begin a gap behind the one before. -/
theorem stacked_poolSections (bands : List Band.Pool) :
    Node.Stacked (fun n => n.bottom + config.poolGap)
      ((poolSections config box gridWidth (whole 0) bands).map (·.1)) := by
  let pools (top : α) (bands : List Band.Pool) : List (Node α) :=
    (poolSections config box gridWidth top bands).map (·.1)
  have hcons : ∀ top band rest, ∃ n, pools top (band :: rest) =
      n :: pools (n.bottom + config.poolGap) rest ∧ n.position.y = top := fun top band rest =>
    ⟨(poolShelf config box gridWidth top band).band, rfl, rfl⟩
  exact Node.stacked_of_cons (fun _ => rfl) hcons bands

/-- Lanes begin where the one before ends. -/
theorem stacked_innerShelves (pool : Node α) (content : Band.Content) :
    Node.Stacked Node.bottom ((innerShelves config box gridWidth pool content).map (·.band)) := by
  cases content with
  | row members => exact ⟨(fun _ hn => nomatch hn), .nil⟩
  | lanes bands =>
    let lanes (top : α) (bands : List Band.Lane) : List (Node α) :=
      (laneShelves config box gridWidth pool top bands).map (·.band)
    have hcons : ∀ top band rest, ∃ n, lanes top (band :: rest) = n :: lanes n.bottom rest ∧
        n.position.y = top := fun top band rest =>
      ⟨(laneShelf config box gridWidth pool top band).band, rfl, rfl⟩
    exact Node.stacked_of_cons (fun _ => rfl) hcons bands

/-- The heights of the bands of lanes. -/
theorem map_height_laneShelves (pool : Node α) (top : α) (bands : List Band.Lane) :
    ((laneShelves config box gridWidth pool top bands).map (·.band)).map (·.extent.height) =
      bands.map (laneHeight config box) := by
  induction bands generalizing top with
  | nil => rfl
  | cons band rest ih => exact congrArg (_ :: ·) (ih _)

/-- The height of a pool is that of its lanes together, or that of a row. -/
theorem poolHeight_eq {content : Band.Content} (h : content ≠ .lanes []) (pool : Node α) :
    let lanes := (innerShelves config box gridWidth pool content).map (·.band)
    poolHeight config box content =
      if lanes = [] then config.rowHeight else total (lanes.map (·.extent.height)) := by
  cases content with
  | row members => exact (if_pos rfl).symm
  | lanes bands =>
    have hbands : bands ≠ [] := fun hnil => h (congrArg _ hnil)
    obtain ⟨band, rest, rfl⟩ := List.exists_cons_of_ne_nil hbands
    intro lanes
    have hheights : lanes.map (·.extent.height) = (band :: rest).map (laneHeight config box) :=
      map_height_laneShelves pool (whole 0) (band :: rest)
    have hne : lanes ≠ [] := List.cons_ne_nil _ _
    rw [if_neg hne, hheights, poolHeight]

/-- What is known of a section of the grid. -/
theorem lanes_of_mem_poolSections {top : α} {bands : List Band.Pool} {s : Node α × List (Node α)}
    (hs : s ∈ poolSections config box gridWidth top bands) :
    ∃ top', ∃ band ∈ bands, s.1 = (poolShelf config box gridWidth top' band).band ∧
      Node.lanes s.2 = (innerShelves config box gridWidth s.1 band.content).map (·.band) := by
  obtain ⟨top', band, hband, rfl⟩ := mem_poolSections hs
  let pool := (poolShelf config box gridWidth top' band).band
  exact ⟨top', band, hband, rfl, lanes_contentNodes pool band.content⟩

theorem mem_innerShelves {pool : Node α} {content : Band.Content} {n : Node α}
    (hn : n ∈ (innerShelves config box gridWidth pool content).map (·.band)) :
    ∃ top band, n = (laneShelf config box gridWidth pool top band).band := by
  obtain ⟨s, hs, rfl⟩ := List.mem_map.1 hn
  cases content with
  | row members => cases hs
  | lanes bands =>
    obtain ⟨top, band, -, rfl⟩ := mem_laneShelves hs
    exact ⟨top, band, rfl⟩

end Grid

/-- A diagram whose nodes are those of the grid is a strict grid. -/
theorem Diagram.strictGrid_of_nodes [Scalar α] {d : Document} {config : Grid.Config α}
    {box : String → Box α} {diagram : Diagram α}
    (hnodes : diagram.nodes = Grid.nodes config box diagram.gridWidth d.bands) :
    diagram.StrictGrid config := by
  have hsections : Node.sections diagram.nodes =
      Grid.poolSections config box diagram.gridWidth (whole 0) d.bands := by
    rw [hnodes]
    exact Grid.sections_nodesFrom (whole 0) d.bands
  have hcovered : (Node.sections diagram.nodes).flatMap (fun s => s.1 :: s.2) = diagram.nodes := by
    have hall := Node.takeWhile_append_sections diagram.nodes
    have hfirst : ∀ n ∈ diagram.nodes.head?, n.kind = .pool := by
      rw [hnodes]
      exact Grid.kind_of_mem_head?_nodesFrom
    have hnone : diagram.nodes.takeWhile (·.kind ≠ .pool) = [] := by
      cases hcons : diagram.nodes with
      | nil => rfl
      | cons n rest =>
        rw [hcons] at hfirst
        exact List.takeWhile_cons_of_neg (by simpa using hfirst n rfl)
    rwa [hnone, List.nil_append] at hall
  have hlane : ∀ n ∈ diagram.nodes, n.kind = .lane → ∃ pool top band,
      n = (Grid.laneShelf config box diagram.gridWidth pool top band).band := by
    intro n hn hkind
    rw [← hcovered] at hn
    obtain ⟨s, hs, hn⟩ := List.mem_flatMap.1 hn
    rw [hsections] at hs
    obtain ⟨top, band, -, hpool, hlanes⟩ := Grid.lanes_of_mem_poolSections hs
    rcases List.mem_cons.1 hn with rfl | hn
    · rw [hpool] at hkind
      cases hkind
    · have hmem : n ∈ Node.lanes s.2 := List.mem_filter.2 ⟨hn, decide_eq_true hkind⟩
      rw [hlanes] at hmem
      exact ⟨s.1, Grid.mem_innerShelves hmem⟩
  refine ⟨hcovered, ?poolWidth, ?laneWidth, ?pools, ?lanes, ?parents, ?poolHeight, ?laneHeight⟩
  case poolWidth =>
    intro n hn hkind
    have hmem : n ∈ Node.pools diagram.nodes := List.mem_filter.2 ⟨hn, decide_eq_true hkind⟩
    rw [← Node.map_fst_sections, hsections] at hmem
    obtain ⟨s, hs, rfl⟩ := List.mem_map.1 hmem
    obtain ⟨top, band, -, hpool, -⟩ := Grid.lanes_of_mem_poolSections hs
    rw [hpool]
    rfl
  case laneWidth =>
    intro n hn hkind
    obtain ⟨pool, top, band, rfl⟩ := hlane n hn hkind
    rfl
  case pools =>
    rw [← Node.map_fst_sections, hsections]
    exact Grid.stacked_poolSections d.bands
  case lanes =>
    intro s hs
    rw [hsections] at hs
    obtain ⟨top, band, -, hpool, hlanes⟩ := Grid.lanes_of_mem_poolSections hs
    rw [hlanes]
    exact Grid.stacked_innerShelves s.1 band.content
  case parents =>
    intro s hs n hn
    rw [hsections] at hs
    obtain ⟨top, band, -, hpool, hlanes⟩ := Grid.lanes_of_mem_poolSections hs
    rw [hlanes] at hn
    obtain ⟨top', lane, rfl⟩ := Grid.mem_innerShelves hn
    rfl
  case poolHeight =>
    intro s hs
    rw [hsections] at hs
    obtain ⟨top, band, hband, hpool, hlanes⟩ := Grid.lanes_of_mem_poolSections hs
    rw [hlanes, hpool]
    exact Grid.poolHeight_eq (d.content_ne_lanes_nil band hband) _
  case laneHeight =>
    intro n hn hkind
    obtain ⟨pool, top, band, rfl⟩ := hlane n hn hkind
    exact ⟨_, rfl⟩

namespace Layout

variable [Scalar α]

/-- **The strict grid**: with any solver that gives every element its place, the diagram of a
document is a strict grid. If the constants of the grid are accepted settings, no two pools and no
two lanes of one pool overlap. -/
theorem diagram_strictGrid {l : Layout α} {d : Document} (h : l.Places d) :
    ∃ diagram, l.diagram d = .ok diagram ∧ diagram.StrictGrid l.config ∧
      (Ordered α → ∀ (number : Settings.Reader α) (v : Value),
        Settings.gridCheck number v = .good l.config → diagram.Apart) := by
  obtain ⟨boxes, hdiagram⟩ := exists_diagram_of_places h
  have hgrid : (l.compose d boxes).StrictGrid l.config := Diagram.strictGrid_of_nodes rfl
  refine ⟨_, hdiagram, hgrid, fun horder number v haccepted => ?_⟩
  exact hgrid.apart horder (Settings.nonNegative_of_gridCheck horder haccepted)

/-- Settings for a narrow grid. -/
def narrow : Value :=
  .map [(.str "header_width", .int 5), (.str "container_gap", .int 0),
    (.str "lane_min_height", .int 1)]

/-- A whole number as a rational. -/
def readWhole : Settings.Reader Rat
  | .int n => .good n
  | _ => .fault .notNumber

/-- The layout with the constants of a narrow grid. -/
def narrowLayout : Layout Rat :=
  layered { Grid.Config.standard with headerWidth := 5, poolGap := 0, laneMinHeight := 1 } .standard

/-- Pools that follow each other without a gap do not overlap. -/
theorem diagram_strictGrid_narrow :
    narrowLayout.Places crowded ∧ Ordered Rat ∧
      Settings.gridCheck readWhole narrow = .good narrowLayout.config ∧
      ∃ diagram, narrowLayout.diagram crowded = .ok diagram ∧
        diagram.StrictGrid narrowLayout.config ∧ diagram.Apart := by
  have hplaces : narrowLayout.Places crowded := layered_places _ _ _
  have haccepted : Settings.gridCheck readWhole narrow = .good narrowLayout.config := rfl
  obtain ⟨diagram, hdiagram, hgrid, hapart⟩ := diagram_strictGrid hplaces
  exact ⟨hplaces, ordered_rat, haccepted, diagram, hdiagram, hgrid,
    hapart ordered_rat readWhole narrow haccepted⟩

end Layout

end Swimlane
