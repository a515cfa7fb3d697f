import Swimlane.Proofs.Grid.Identifiers

/-!
# Absolute positions

The position of an element is summed up along a chain of parents that are looked up by their
identifiers. Bands may share an identifier, but only with bands of their kind: the first letter
tells a lane from a pool. All lanes stand at one distance from the left side of their pool, and all
pools at the left side of the diagram, so that the sum has the same horizontal part for every chain.

- `Grid.kind_eq_of_id_eq`: bands with one identifier are of one kind.
- `Diagram.climb_succ`: one step along the chain of parents.
- `Diagram.exists_absolutePosition`: the horizontal place of every element, in any arithmetic.
-/

namespace Swimlane

open Scalar

variable {α : Type}

namespace Diagram

/-- One step along the chain of parents. -/
theorem climb_succ [Add α] {diagram : Diagram α} {id : String} {n : Node α}
    (hn : diagram.node? id = some n) (fuel : Nat) (p : Point α) :
    diagram.climb (fuel + 1) p (some id) =
      diagram.climb fuel ⟨p.x + n.position.x, p.y + n.position.y⟩ n.parent := by
  rw [climb, hn]

/-- The chain ends at a node without a parent. -/
theorem climb_none [Add α] (diagram : Diagram α) (fuel : Nat) (p : Point α) :
    diagram.climb fuel p none = some p := by
  cases fuel <;> rfl

/-- The identifier of a node stands for a node. -/
theorem exists_node?_of_mem {diagram : Diagram α} {n : Node α} (hn : n ∈ diagram.nodes) :
    ∃ m ∈ diagram.nodes, m.id = n.id ∧ diagram.node? n.id = some m := by
  have hsome : (diagram.node? n.id).isSome = true :=
    List.find?_isSome.2 ⟨n, hn, decide_eq_true rfl⟩
  obtain ⟨m, hm⟩ := Option.isSome_iff_exists.1 hsome
  have hfound : diagram.nodes.find? (fun k => decide (k.id = n.id)) = some m := hm
  have hid := List.find?_some hfound
  exact ⟨m, List.mem_of_find?_eq_some hfound, by simpa using hid, hm⟩

end Diagram

/-- A list with two different items is not shorter than two. -/
theorem two_le_length_of_mem {κ : Type} {items : List κ} {a b : κ} (ha : a ∈ items) (hb : b ∈ items)
    (hne : a ≠ b) : 2 ≤ items.length := by
  have hpair : [a, b].Subperm items :=
    List.subperm_of_subset (by simp [hne]) (by simp [ha, hb])
  exact hpair.length_le

/-! ### Bands that are looked up -/

section

variable [Scalar α] {config : Grid.Config α} {box : String → Box α} {gridWidth : α} {d : Document}

namespace Grid

/-- The identifier of a band has a hyphen, and its first letter tells a lane from a pool. -/
theorem id_of_mem_shelves {s : Shelf α} (hs : s ∈ shelves config box gridWidth d.bands) :
    '-' ∈ s.band.id.toList ∧ (s.band.kind = .lane ↔ s.band.id.toList.head? = some 'l') := by
  obtain ⟨b, hb, hshows⟩ := Shelf.exists_shows (shows_shelves config box gridWidth d.bands) hs
  have hb : b ∈ d.shelves := hb
  have hinitial : s.band.id.toList.head? = some (Band.initial b.bucket) := by
    rw [Document.shelves_eq_shelve] at hb
    rw [hshows.id]
    exact Band.head?_id_of_mem_shelve hb
  refine ⟨?hyphen, ?kind⟩
  case hyphen =>
    rw [hshows.id]
    exact Document.hyphen_mem_of_mem_shelves (List.mem_map_of_mem hb)
  case kind =>
    have hbucket := hshows.bucket
    rw [hinitial]
    rcases mem_shelves hs with ⟨top, pool, rfl⟩ | ⟨_, _, _, -, -, _, lane, -, rfl⟩
    · -- the bucket of a pool is its root, or that of what belongs nowhere
      have hpool : b.bucket = .ofPoolBand pool.id pool.label := (Option.some.inj hbucket).symm
      rw [hpool, Bucket.ofPoolBand]
      split <;> simp [poolShelf, bandNode, Band.initial]
    · have hlane : b.bucket = .lane _ lane.label := (Option.some.inj hbucket).symm
      rw [hlane]
      simp [laneShelf, bandNode, Band.initial]

/-- Bands with one identifier are of one kind. -/
theorem kind_eq_of_id_eq {s t : Shelf α} (hs : s ∈ shelves config box gridWidth d.bands)
    (ht : t ∈ shelves config box gridWidth d.bands) (hid : s.band.id = t.band.id) :
    s.band.kind = .lane ↔ t.band.kind = .lane := by
  rw [(id_of_mem_shelves hs).2, (id_of_mem_shelves ht).2, hid]

end Grid

/-! ### The chain of parents of an element -/

namespace Diagram

variable {diagram : Diagram α}

/-- A node is a band, or an element that stands in one. -/
theorem exists_shelf_of_mem (hnodes : diagram.nodes = Grid.nodes config box gridWidth d.bands)
    {n : Node α} (hn : n ∈ diagram.nodes) :
    ∃ s ∈ Grid.shelves config box gridWidth d.bands, s.band ∈ diagram.nodes ∧
      (n = s.band ∨ ∃ e ∈ d.elements, e ∈ s.members ∧
        n = Grid.elementNode e (s.position e) s.band.id) := by
  rw [hnodes, Grid.nodes_eq_flatMap] at hn ⊢
  obtain ⟨s, hs, hns⟩ := List.mem_flatMap.1 hn
  refine ⟨s, hs, List.mem_flatMap.2 ⟨s, hs, .head _⟩, ?_⟩
  rcases List.mem_cons.1 hns with rfl | hns
  · exact .inl rfl
  · obtain ⟨e, he, rfl⟩ := List.mem_map.1 hns
    have hunique := Grid.mem_uniqueElements_of_mem_members hs he
    exact .inr ⟨e, (distinctBy_sublist _ _).mem hunique, he, rfl⟩

variable (hnodes : diagram.nodes = Grid.nodes config box gridWidth d.bands)
  (hhyphen : ∀ e ∈ d.elements, '-' ∉ e.id.toList)

include hnodes hhyphen

/-- In a document whose elements have no hyphen in their identifiers, the identifier of a band stands
for a band of its kind. -/
theorem exists_node?_band {s : Grid.Shelf α}
    (hs : s ∈ Grid.shelves config box gridWidth d.bands) :
    ∃ t ∈ Grid.shelves config box gridWidth d.bands, diagram.node? s.band.id = some t.band ∧
      (s.band.kind = .lane ↔ t.band.kind = .lane) := by
  have hmem : s.band ∈ diagram.nodes := by
    rw [hnodes, Grid.nodes_eq_flatMap]
    exact List.mem_flatMap.2 ⟨s, hs, .head _⟩
  obtain ⟨m, hm, hid, hfound⟩ := exists_node?_of_mem hmem
  obtain ⟨t, ht, -, rfl | ⟨e, he, -, rfl⟩⟩ := exists_shelf_of_mem hnodes hm
  · exact ⟨t, ht, hfound, Grid.kind_eq_of_id_eq hs ht hid.symm⟩
  · -- an element would have the hyphen of the band
    have hband := (Grid.id_of_mem_shelves hs).1
    rw [← hid] at hband
    exact absurd hband (hhyphen e he)

/-- From the band of a pool, the chain leads no further. -/
theorem exists_climb_pool {s : Grid.Shelf α}
    (hs : s ∈ Grid.shelves config box gridWidth d.bands) (hkind : s.band.kind ≠ .lane) (fuel : Nat)
    (p : Point α) :
    ∃ y, diagram.climb (fuel + 1) p (some s.band.id) = some ⟨p.x + whole 0, y⟩ := by
  obtain ⟨t, ht, hfound, hiff⟩ := exists_node?_band hnodes hhyphen hs
  rw [climb_succ hfound]
  rcases Grid.mem_shelves ht with ⟨_, _, rfl⟩ | ⟨_, _, _, -, -, _, _, -, rfl⟩
  · exact ⟨_, climb_none _ _ _⟩
  · exact absurd (hiff.2 rfl) hkind

/-- From the band of a lane, the chain leads on to a pool. -/
theorem exists_climb_lane {s : Grid.Shelf α}
    (hs : s ∈ Grid.shelves config box gridWidth d.bands) (hkind : s.band.kind = .lane) (fuel : Nat)
    (p : Point α) :
    ∃ y, diagram.climb (fuel + 2) p (some s.band.id) =
      some ⟨p.x + config.headerWidth + whole 0, y⟩ := by
  obtain ⟨t, ht, hfound, hiff⟩ := exists_node?_band hnodes hhyphen hs
  rw [climb_succ hfound]
  rcases Grid.mem_shelves ht with ⟨_, _, rfl⟩ | ⟨_, _, _, hpool, -, _, _, -, rfl⟩
  · cases hiff.1 hkind
  · exact exists_climb_pool hnodes hhyphen hpool NodeKind.noConfusion fuel _

/-- The identifier of an element stands for an element. -/
theorem exists_node?_element {n : Node α} (hn : n ∈ diagram.contentNodes) :
    ∃ s ∈ Grid.shelves config box gridWidth d.bands, s.band ∈ diagram.nodes ∧
      ∃ f ∈ s.members, f.id = n.id ∧
        diagram.node? n.id = some (Grid.elementNode f (s.position f) s.band.id) := by
  obtain ⟨hn, hcontent⟩ := List.mem_filter.1 hn
  have hword : '-' ∉ n.id.toList := by
    obtain ⟨t, ht, -, rfl | ⟨e, he, -, rfl⟩⟩ := exists_shelf_of_mem hnodes hn
    · rw [Grid.isBand_of_mem_shelves ht] at hcontent
      cases hcontent
    · exact hhyphen e he
  obtain ⟨m, hm, hid, hfound⟩ := exists_node?_of_mem hn
  obtain ⟨s, hs, hband, rfl | ⟨f, -, hf, rfl⟩⟩ := exists_shelf_of_mem hnodes hm
  · -- a band would have a hyphen
    rw [← hid] at hword
    exact absurd (Grid.id_of_mem_shelves hs).1 hword
  · exact ⟨s, hs, hband, f, hf, hid, hfound⟩

/-- **Horizontal places**: the absolute place of an element lies as far to the right of the header as
its solver placed it from the origin, whatever band it stands in. The sum begins with the one or the
other, and ends with the left side of the diagram. -/
theorem exists_absolutePosition {n : Node α} (hn : n ∈ diagram.contentNodes) :
    ∃ p, diagram.absolutePosition n.id = .ok p ∧
      (p.x = config.headerWidth + (box n.id).x + whole 0 ∨
        p.x = (box n.id).x + config.headerWidth + whole 0) := by
  obtain ⟨s, hs, hband, f, -, hid, hfound⟩ := exists_node?_element hnodes hhyphen hn
  -- a chain may have two bands, and there are two nodes: the element and its band
  have htwo : 2 ≤ diagram.nodes.length := by
    have hkind := Grid.isBand_of_mem_shelves hs
    have hne : Grid.elementNode f (s.position f) s.band.id ≠ s.band := by
      intro heq
      rw [← heq] at hkind
      cases hkind
    exact two_le_length_of_mem (List.mem_of_find?_eq_some hfound) hband hne
  obtain ⟨fuel, hfuel⟩ := Nat.exists_eq_add_of_le' htwo
  rw [absolutePosition, hfound]
  dsimp only [Grid.elementNode]
  rw [hfuel, ← hid]
  rcases Grid.mem_shelves hs with ⟨_, _, rfl⟩ | ⟨_, _, _, -, -, _, _, -, rfl⟩
  · obtain ⟨y, hclimb⟩ := exists_climb_pool hnodes hhyphen hs NodeKind.noConfusion (fuel + 1) _
    rw [hclimb]
    exact ⟨_, rfl, .inl rfl⟩
  · obtain ⟨y, hclimb⟩ := exists_climb_lane hnodes hhyphen hs rfl fuel _
    rw [hclimb]
    exact ⟨_, rfl, .inr rfl⟩

end Diagram

end

end Swimlane
