import Mathlib.Data.List.Forall2
import Swimlane.Grid.Compose
import Swimlane.Proofs.Grid.Bands

/-!
# Nested nodes

A list of nodes is read from its start: a pool opens a band, a lane opens one inside the pool, and
an element stands in the band that was opened last. Nothing is looked up by its identifier, so that
bands that share theirs are still told apart.

- `Nesting`, `Nesting.housed`: the open bands, and each node with the band it stands in.
- `Nesting.nested`: each node with all bands it stands in.
- `Nesting.bucket?`: the bucket that a band stands for.
- `Grid.Shelf`: a band of nodes with the elements directly behind it.
- `Grid.shelves`, `Grid.nested_nodes`: the nodes of the grid are shelves, from top to bottom.
- `Grid.exists_shelves_nodes`: they show the shelves of its bands.
-/

namespace Swimlane

variable {α : Type}

/-- The open bands: the pool that a lane stands in, and the band that an element stands in. -/
structure Nesting (α : Type) where
  pool : Option (Node α)
  band : Option (Node α)

namespace Nesting

/-- No band is open. -/
def outside : Nesting α := ⟨none, none⟩

/-- The band that a node stands in. -/
def house (outer : Nesting α) (n : Node α) : Option (Node α) :=
  match n.kind with
  | .pool => none
  | .lane => outer.pool
  | _ => outer.band

/-- The open bands behind a node. -/
def enter (outer : Nesting α) (n : Node α) : Nesting α :=
  match n.kind with
  | .pool => ⟨some n, some n⟩
  | .lane => ⟨outer.pool, some n⟩
  | _ => outer

/-- Each node with the band it stands in. -/
def housed (outer : Nesting α) : List (Node α) → List (Node α × Option (Node α))
  | [] => []
  | n :: rest => (n, outer.house n) :: (outer.enter n).housed rest

/-- The bands that a node stands in, from the inner to the outer. -/
def bands (outer : Nesting α) (n : Node α) : List (Node α) :=
  match outer.house n with
  | none => []
  | some band => band :: (outer.house band).toList

/-- Each node with the bands it stands in. -/
def nested (outer : Nesting α) : List (Node α) → List (Node α × List (Node α))
  | [] => []
  | n :: rest => (n, outer.bands n) :: (outer.enter n).nested rest

/-- The bucket that a band stands for: a lane is told by its label and that of its pool. -/
def bucket? (x : Node α × Option (Node α)) : Option Bucket :=
  match x.1.kind with
  | .pool => some (.ofPoolBand x.1.id x.1.label)
  | .lane => x.2.map fun pool => .lane pool.label x.1.label
  | _ => none

theorem map_fst_housed (outer : Nesting α) (nodes : List (Node α)) :
    (outer.housed nodes).map (·.1) = nodes := by
  induction nodes generalizing outer with
  | nil => rfl
  | cons n rest ih => rw [housed, List.map_cons, ih]

theorem map_fst_nested (outer : Nesting α) (nodes : List (Node α)) :
    (outer.nested nodes).map (·.1) = nodes := by
  induction nodes generalizing outer with
  | nil => rfl
  | cons n rest ih => rw [nested, List.map_cons, ih]

/-- The band that a node stands in is the innermost one. -/
theorem housed_eq_map_nested (outer : Nesting α) (nodes : List (Node α)) :
    outer.housed nodes = (outer.nested nodes).map fun x => (x.1, x.2.head?) := by
  induction nodes generalizing outer with
  | nil => rfl
  | cons n rest ih =>
    have hhouse : outer.house n = (outer.bands n).head? := by
      rw [bands]
      cases outer.house n <;> rfl
    rw [housed, nested, List.map_cons, ih, hhouse]

theorem nested_append (outer : Nesting α) (nodes nodes' : List (Node α)) :
    outer.nested (nodes ++ nodes') =
      outer.nested nodes ++ (nodes.foldl enter outer).nested nodes' := by
  induction nodes generalizing outer with
  | nil => rfl
  | cons n rest ih => rw [List.cons_append, nested, nested, ih]; rfl

end Nesting

namespace Grid

open Scalar

/-- A band with the elements directly behind it, and the band it stands in itself. -/
structure Shelf (α : Type) where
  band : Node α
  house : Option (Node α)
  members : List Element
  position : Element → Point α

namespace Shelf

/-- The nodes of a shelf. -/
def nodes (s : Shelf α) : List (Node α) :=
  s.band :: s.members.map fun e => elementNode e (s.position e) s.band.id

/-- The elements of a shelf, each with the band. -/
def contents (s : Shelf α) : List (Node α × Option (Node α)) :=
  s.members.map fun e => (elementNode e (s.position e) s.band.id, some s.band)

/-- The nodes of a shelf, each with the band it stands in. -/
def housed (s : Shelf α) : List (Node α × Option (Node α)) := (s.band, s.house) :: s.contents

/-- The bands that the elements of a shelf stand in. -/
def bands (s : Shelf α) : List (Node α) := s.band :: s.house.toList

/-- The nodes of a shelf, each with the bands it stands in. -/
def nested (s : Shelf α) : List (Node α × List (Node α)) :=
  (s.band, s.house.toList) ::
    s.members.map fun e => (elementNode e (s.position e) s.band.id, s.bands)

theorem housed_eq_map_nested (s : Shelf α) :
    s.housed = s.nested.map fun x => (x.1, x.2.head?) := by
  have hhead : s.house.toList.head? = s.house := by cases s.house <;> rfl
  simp [housed, contents, nested, bands, hhead]

/-- A shelf of nodes shows a shelf of a document: the same bucket, identifier and members. -/
structure Shows (s : Shelf α) (b : Band.Shelf) : Prop where
  bucket : Nesting.bucket? (s.band, s.house) = some b.bucket
  id : s.band.id = b.id
  members : s.members = b.members
  parent : s.band.parent = s.house.map (·.id)

/-- Elements open no band. -/
theorem foldl_enter_elements (outer : Nesting α) (members : List Element)
    (position : Element → Point α) (parent : String) :
    (members.map fun e => elementNode e (position e) parent).foldl Nesting.enter outer =
      outer := by
  induction members with
  | nil => rfl
  | cons e rest ih => exact ih

/-- Elements stand in the band that is open. -/
theorem nested_elements (outer : Nesting α) (members : List Element)
    (position : Element → Point α) {band : Node α} (hband : outer.band = some band)
    (parent : String) :
    outer.nested (members.map fun e => elementNode e (position e) parent) =
      members.map fun e =>
        (elementNode e (position e) parent, band :: (outer.house band).toList) := by
  induction members with
  | nil => rfl
  | cons e rest ih =>
    rw [List.map_cons, List.map_cons, ← ih]
    have hbands : outer.bands (elementNode e (position e) parent) =
        band :: (outer.house band).toList := by
      rw [Nesting.bands]
      show (match outer.band with
        | none => []
        | some band => band :: (outer.house band).toList) = _
      rw [hband]
    rw [Nesting.nested, hbands]
    rfl

theorem foldl_enter_nodes (outer : Nesting α) (s : Shelf α) :
    s.nodes.foldl Nesting.enter outer = outer.enter s.band :=
  foldl_enter_elements _ _ _ _

/-- The nodes of a shelf are nested in its band, which stands in its house. -/
theorem nested_nodes {outer : Nesting α} {s : Shelf α} (hbands : outer.bands s.band = s.house.toList)
    (hband : (outer.enter s.band).band = some s.band)
    (hhouse : (outer.enter s.band).house s.band = s.house) : outer.nested s.nodes = s.nested := by
  rw [nodes, Nesting.nested, nested_elements _ _ _ hband, hbands, hhouse]
  rfl

end Shelf

theorem Shelf.exists_shows {shelves : List (Shelf α)} {shown : List Band.Shelf}
    (h : List.Forall₂ Shows shelves shown) {s : Shelf α} (hs : s ∈ shelves) :
    ∃ b ∈ shown, s.Shows b := by
  induction h with
  | nil => cases hs
  | cons hshows _ ih =>
    rcases List.mem_cons.1 hs with rfl | hs
    · exact ⟨_, .head _, hshows⟩
    · obtain ⟨b, hb, hshows⟩ := ih hs
      exact ⟨b, .tail _ hb, hshows⟩

variable [Scalar α] (config : Config α) (box : String → Box α) (gridWidth : α)

/-! ### The shelves of the grid -/

/-- The band of a lane with its elements, in a pool. -/
def laneShelf (pool : Node α) (top : α) (band : Band.Lane) : Shelf α where
  band := bandNode band.id .lane band.label ⟨config.headerWidth, top⟩
    ⟨gridWidth, laneHeight config box band⟩ (some pool.id)
  house := some pool
  members := band.members
  position e := ⟨(box e.id).x, half (laneHeight config box band) +
    ((box e.id).y - centre (places box band.members)) - anchorOffset e.kind⟩

/-- The bands of lanes one below another in a pool, the first at `top`. -/
def laneShelves (pool : Node α) : α → List Band.Lane → List (Shelf α)
  | _, [] => []
  | top, band :: rest =>
    laneShelf config box gridWidth pool top band ::
      laneShelves pool (top + laneHeight config box band) rest

/-- The band of a pool with the elements of its row, if it holds one. -/
def poolShelf (top : α) (band : Band.Pool) : Shelf α where
  band := bandNode band.id .pool band.label ⟨whole 0, top⟩
    ⟨gridWidth + config.headerWidth, poolHeight config box band.content⟩ none
  house := none
  members :=
    match band.content with
    | .lanes _ => []
    | .row members => members
  position e := ⟨config.headerWidth + (box e.id).x, half config.rowHeight - anchorOffset e.kind⟩

/-- The bands of the lanes in a pool. -/
def innerShelves (pool : Node α) : Band.Content → List (Shelf α)
  | .lanes bands => laneShelves config box gridWidth pool (whole 0) bands
  | .row _ => []

/-- The band of a pool and those of its lanes. -/
def poolShelves (top : α) (band : Band.Pool) : List (Shelf α) :=
  let shelf := poolShelf config box gridWidth top band
  shelf :: innerShelves config box gridWidth shelf.band band.content

/-- The bands of pools one below another with those of their lanes, the first at `top`. -/
def shelvesFrom : α → List Band.Pool → List (Shelf α)
  | _, [] => []
  | top, band :: rest =>
    poolShelves config box gridWidth top band ++
      shelvesFrom (top + poolHeight config box band.content + config.poolGap) rest

/-- All bands of the grid. -/
def shelves (bands : List Band.Pool) : List (Shelf α) :=
  shelvesFrom config box gridWidth (whole 0) bands

theorem laneNodes_eq_nodes (pool : Node α) (top : α) (band : Band.Lane) :
    laneNodes config box gridWidth pool.id top band =
      (laneShelf config box gridWidth pool top band).nodes :=
  rfl

/-- The nodes of lanes are shelves in their pool. -/
theorem nested_lanesNodes {outer : Nesting α} {pool : Node α} (hpool : outer.pool = some pool)
    (hkind : pool.kind = .pool) (top : α) (bands : List Band.Lane) :
    outer.nested (lanesNodes config box gridWidth pool.id top bands) =
      (laneShelves config box gridWidth pool top bands).flatMap Shelf.nested := by
  induction bands generalizing outer top with
  | nil => rfl
  | cons band rest ih =>
    let s := laneShelf config box gridWidth pool top band
    have henter : outer.enter s.band = ⟨outer.pool, some s.band⟩ := rfl
    have hbands : outer.bands s.band = s.house.toList := by
      show (match outer.pool with
        | none => []
        | some band => band :: (outer.house band).toList) = [pool]
      rw [hpool]
      show pool :: (outer.house pool).toList = [pool]
      rw [Nesting.house, hkind]
      rfl
    have hhouse : (outer.enter s.band).house s.band = s.house := by
      rw [henter]
      exact hpool
    have hnext : (outer.enter s.band).pool = some pool := by
      rw [henter]
      exact hpool
    rw [lanesNodes, Nesting.nested_append, laneNodes_eq_nodes, Shelf.nested_nodes hbands rfl hhouse,
      Shelf.foldl_enter_nodes, ih hnext, laneShelves, List.flatMap_cons]

/-- The nodes of a pool are shelves. -/
theorem nested_poolNodes (outer : Nesting α) (top : α) (band : Band.Pool) :
    outer.nested (poolNodes config box gridWidth top band) =
      (poolShelves config box gridWidth top band).flatMap Shelf.nested := by
  obtain ⟨id, label, content⟩ := band
  rw [poolShelves, List.flatMap_cons]
  cases content with
  | lanes bands =>
    -- the band itself is a shelf without members, in front of those of the lanes
    let pool := (poolShelf config box gridWidth top ⟨id, label, .lanes bands⟩).band
    have hopen : (⟨some pool, some pool⟩ : Nesting α).pool = some pool := rfl
    have hlanes := nested_lanesNodes config box gridWidth hopen rfl (whole 0) bands
    exact congrArg ((pool, []) :: ·) hlanes
  | row members =>
    let s := poolShelf config box gridWidth top ⟨id, label, .row members⟩
    have hnodes : outer.nested s.nodes = s.nested := Shelf.nested_nodes rfl rfl rfl
    exact hnodes.trans (List.append_nil _).symm

/-- The nodes of the grid are the shelves of its bands. -/
theorem nested_nodes (bands : List Band.Pool) :
    Nesting.outside.nested (nodes config box gridWidth bands) =
      (shelves config box gridWidth bands).flatMap Shelf.nested := by
  suffices ∀ (outer : Nesting α) (top : α),
      outer.nested (nodesFrom config box gridWidth top bands) =
        (shelvesFrom config box gridWidth top bands).flatMap Shelf.nested from this _ _
  induction bands with
  | nil => exact fun _ _ => rfl
  | cons band rest ih =>
    intro outer top
    rw [nodesFrom, Nesting.nested_append, nested_poolNodes, ih, shelvesFrom, List.flatMap_append]

/-- The nodes of the grid are the nodes of its shelves. -/
theorem nodes_eq_flatMap (bands : List Band.Pool) :
    nodes config box gridWidth bands =
      (shelves config box gridWidth bands).flatMap Shelf.nodes := by
  rw [← Nesting.map_fst_nested .outside (nodes config box gridWidth bands), nested_nodes,
    List.map_flatMap]
  refine List.flatMap_congr fun s _ => ?_
  simp [Shelf.nested, Shelf.nodes]

section

variable {config box gridWidth}

/-- A pool with lanes holds no elements itself. -/
theorem members_poolShelf_of_lanes {top : α} {band : Band.Pool} {lanes : List Band.Lane}
    (h : band.content = .lanes lanes) : (poolShelf config box gridWidth top band).members = [] := by
  show (match band.content with
    | .lanes _ => []
    | .row members => members) = []
  rw [h]

theorem mem_laneShelves {pool : Node α} {top : α} {bands : List Band.Lane} {s : Shelf α}
    (hs : s ∈ laneShelves config box gridWidth pool top bands) :
    ∃ top', ∃ band ∈ bands, s = laneShelf config box gridWidth pool top' band := by
  induction bands generalizing top with
  | nil => cases hs
  | cons band rest ih =>
    rcases List.mem_cons.1 hs with rfl | hs
    · exact ⟨top, band, .head _, rfl⟩
    · obtain ⟨top', band', hband', rfl⟩ := ih hs
      exact ⟨top', band', .tail _ hband', rfl⟩

/-- A shelf is that of a pool, or that of a lane in the band of such a shelf. -/
theorem mem_shelves {bands : List Band.Pool} {s : Shelf α}
    (hs : s ∈ shelves config box gridWidth bands) :
    (∃ top pool, s = poolShelf config box gridWidth top pool) ∨
      ∃ top pool lanes, poolShelf config box gridWidth top pool ∈
          shelves config box gridWidth bands ∧
        pool.content = .lanes lanes ∧ ∃ top', ∃ lane ∈ lanes,
          s = laneShelf config box gridWidth (poolShelf config box gridWidth top pool).band top'
            lane := by
  suffices ∀ top : α, s ∈ shelvesFrom config box gridWidth top bands →
      (∃ top pool, s = poolShelf config box gridWidth top pool) ∨
        ∃ top' pool lanes, poolShelf config box gridWidth top' pool ∈
            shelvesFrom config box gridWidth top bands ∧
          pool.content = .lanes lanes ∧ ∃ top'', ∃ lane ∈ lanes,
            s = laneShelf config box gridWidth (poolShelf config box gridWidth top' pool).band top''
              lane from this _ hs
  clear hs
  induction bands with
  | nil => exact fun _ hs => nomatch hs
  | cons pool rest ih =>
    intro top hs
    rcases List.mem_append.1 hs with hs | hs
    · rcases List.mem_cons.1 hs with rfl | hs
      · exact .inl ⟨top, pool, rfl⟩
      · cases hcontent : pool.content with
        | row members =>
          rw [hcontent] at hs
          cases hs
        | lanes lanes =>
          rw [hcontent] at hs
          exact .inr ⟨top, pool, lanes, List.mem_append_left _ (.head _), hcontent,
            mem_laneShelves hs⟩
    · rcases ih _ hs with hpool | ⟨top', pool', lanes, hpool', hlane⟩
      · exact .inl hpool
      · exact .inr ⟨top', pool', lanes, List.mem_append_right _ hpool', hlane⟩

theorem isBand_of_mem_shelves {bands : List Band.Pool} {s : Shelf α}
    (hs : s ∈ shelves config box gridWidth bands) : s.band.kind.isBand = true := by
  rcases mem_shelves hs with ⟨_, _, rfl⟩ | ⟨_, _, _, -, -, _, _, -, rfl⟩
  · rfl
  · rfl

end

/-! ### What the shelves show -/

theorem shows_laneShelves (pool : Node α) (top : α) (bands : List Band.Lane) :
    List.Forall₂ Shelf.Shows (laneShelves config box gridWidth pool top bands)
      (bands.map (Band.Lane.shelf pool.label)) := by
  induction bands generalizing top with
  | nil => exact .nil
  | cons band rest ih => exact .cons ⟨rfl, rfl, rfl, rfl⟩ (ih _)

theorem shows_poolShelves (top : α) (band : Band.Pool) :
    List.Forall₂ Shelf.Shows (poolShelves config box gridWidth top band) band.shelves := by
  obtain ⟨id, label, content⟩ := band
  cases content with
  | lanes bands => exact .cons ⟨rfl, rfl, rfl, rfl⟩ (shows_laneShelves ..)
  | row members => exact .cons ⟨rfl, rfl, rfl, rfl⟩ .nil

/-- The shelves of the grid show those of its bands. -/
theorem shows_shelves (bands : List Band.Pool) :
    List.Forall₂ Shelf.Shows (shelves config box gridWidth bands) (bands.flatMap (·.shelves)) := by
  suffices ∀ top : α, List.Forall₂ Shelf.Shows (shelvesFrom config box gridWidth top bands)
      (bands.flatMap (·.shelves)) from this _
  induction bands with
  | nil => exact fun _ => .nil
  | cons band rest ih =>
    intro top
    rw [shelvesFrom, List.flatMap_cons]
    exact List.rel_append (shows_poolShelves config box gridWidth top band) (ih _)

/-- What stands on a shelf of the grid of a document is an element that counts. -/
theorem mem_uniqueElements_of_mem_members {config : Config α} {box : String → Box α} {gridWidth : α}
    {d : Document} {s : Shelf α} (hs : s ∈ shelves config box gridWidth d.bands) {e : Element}
    (he : e ∈ s.members) : e ∈ d.uniqueElements := by
  obtain ⟨b, hb, hshows⟩ := Shelf.exists_shows (shows_shelves config box gridWidth d.bands) hs
  exact Document.mem_uniqueElements_of_mem_shelves hb (hshows.members ▸ he)

/-- The nodes of the grid are shelves that show those of its bands. -/
theorem exists_shelves_nodes (bands : List Band.Pool) :
    ∃ shelves : List (Shelf α),
      List.Forall₂ Shelf.Shows shelves (bands.flatMap (·.shelves)) ∧
      Nesting.outside.housed (nodes config box gridWidth bands) =
        shelves.flatMap Shelf.housed := by
  refine ⟨_, shows_shelves config box gridWidth bands, ?_⟩
  rw [Nesting.housed_eq_map_nested, nested_nodes, List.map_flatMap]
  exact List.flatMap_congr fun s _ => s.housed_eq_map_nested.symm

end Grid

end Swimlane
