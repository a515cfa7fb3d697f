import Swimlane.Proofs.Grid.Nesting
import Swimlane.Proofs.Layout

/-!
# Nothing is lost and nothing is doubled

Every element that counts is placed once, in the first band of its bucket; every lane has one band
for each time it is declared, under a pool of the right name; every pool has one band for each time
it is declared, or one if only lanes name it; and there is nothing else.

- `Diagram.Conserves`: a diagram that shows a document in this way.
- `Diagram.Conserves.map_contentNodes_perm`: what the nodes that are no bands have from elements.
- `Layout.diagram_conserves`: every diagram does, whatever solver has placed the elements.
-/

namespace Swimlane

variable {α : Type}

namespace Diagram

/-- The nodes of a diagram, each with the band it stands in. -/
def housed (diagram : Diagram α) : List (Node α × Option (Node α)) :=
  Nesting.outside.housed diagram.nodes

/-- The first band of a bucket. -/
def firstBand? (diagram : Diagram α) (b : Bucket) : Option (Node α) :=
  (diagram.housed.find? (Nesting.bucket? · = some b)).map (·.1)

/-- A node that shows an element: it stands in the first band of the element's bucket, which it
names as its parent. -/
def Shows (diagram : Diagram α) (d : Document) (e : Element)
    (x : Node α × Option (Node α)) : Prop :=
  ∃ band position, diagram.firstBand? (d.bucketOf e) = some band ∧
    x = (Grid.elementNode e position band.id, some band)

/-- A diagram that shows every band that a document asks for and every element that counts, each
once, and nothing else. -/
structure Conserves (diagram : Diagram α) (d : Document) : Prop where
  bands : ((diagram.housed.filter (·.1.kind.isBand)).map Nesting.bucket?).Perm
    (d.neededBands.map some)
  elements : ∃ elements : List Element, elements.Perm d.uniqueElements ∧
    List.Forall₂ (diagram.Shows d) elements (diagram.housed.filter (!·.1.kind.isBand))
  parents : ∀ x ∈ diagram.housed, x.1.parent = x.2.map (·.id)

/-- The nodes that are no bands. -/
def contentNodes (diagram : Diagram α) : List (Node α) :=
  diagram.nodes.filter (!·.kind.isBand)

/-- What the nodes that are no bands have from their elements is what the elements that count have. -/
theorem Conserves.map_contentNodes_perm {diagram : Diagram α} {d : Document}
    (h : diagram.Conserves d) {β : Type} {f : Node α → β} {g : Element → β}
    (hfg : ∀ e position parent, f (Grid.elementNode e position parent) = g e) :
    (diagram.contentNodes.map f).Perm (d.uniqueElements.map g) := by
  obtain ⟨elements, hperm, hshown⟩ := h.elements
  have hnodes : diagram.contentNodes =
      (diagram.housed.filter (!·.1.kind.isBand)).map (·.1) := by
    rw [contentNodes, ← Nesting.map_fst_housed .outside diagram.nodes, List.filter_map]
    rfl
  have hmap : (diagram.housed.filter (!·.1.kind.isBand)).map (fun x => f x.1) =
      elements.map g := by
    rw [← List.forall₂_eq_eq_eq, List.forall₂_map_left_iff, List.forall₂_map_right_iff]
    refine (hshown.imp ?_).flip
    rintro e _ ⟨band, position, -, rfl⟩
    exact hfg e position band.id
  rw [hnodes, List.map_map]
  exact (List.Perm.of_eq hmap).trans (hperm.map g)

/-- The identifiers of the nodes that are no bands are those of the elements that count. -/
theorem Conserves.ids_contentNodes_perm {diagram : Diagram α} {d : Document}
    (h : diagram.Conserves d) :
    (diagram.contentNodes.map (·.id)).Perm (d.uniqueElements.map (·.id)) :=
  h.map_contentNodes_perm fun _ _ _ => rfl

end Diagram

/-! ### Bands and elements among the nodes of shelves -/

namespace Grid.Shelf

/-- What a shelf of nodes has in common with the shelf of a document that it shows. -/
def key (s : Shelf α) : Option Bucket × List Element :=
  (Nesting.bucket? (s.band, s.house), s.members)

theorem isBand_of_bucket? {n : Node α} {house : Option (Node α)} {b : Bucket}
    (h : Nesting.bucket? (n, house) = some b) : n.kind.isBand = true := by
  cases hkind : n.kind with
  | pool => rfl
  | lane => rfl
  | element | other => simp [Nesting.bucket?, hkind] at h

variable {shelves : List (Shelf α)} {shown : List Band.Shelf}

theorem map_key (h : List.Forall₂ Shows shelves shown) :
    shelves.map key = shown.map fun b => (some b.bucket, b.members) := by
  induction h with
  | nil => rfl
  | cons hs _ ih => rw [List.map_cons, List.map_cons, ih, key, hs.bucket, hs.members]

/-- The bands among the nodes are those of the shelves. -/
theorem filter_isBand (h : List.Forall₂ Shows shelves shown) :
    (shelves.flatMap housed).filter (·.1.kind.isBand) = shelves.map fun s => (s.band, s.house) := by
  induction h with
  | nil => rfl
  | @cons s _ _ _ hs _ ih =>
    have hcontents : s.contents.filter (·.1.kind.isBand) = [] := by
      simp [contents, List.filter_eq_nil_iff, elementNode, NodeKind.isBand]
    rw [List.flatMap_cons, List.filter_append, ih, housed, List.filter_cons,
      if_pos (isBand_of_bucket? hs.bucket), hcontents]
    rfl

/-- The other nodes are those of the members. -/
theorem filter_not_isBand (h : List.Forall₂ Shows shelves shown) :
    (shelves.flatMap housed).filter (!·.1.kind.isBand) = shelves.flatMap contents := by
  induction h with
  | nil => rfl
  | @cons s _ _ _ hs _ ih =>
    have hcontents : s.contents.filter (!·.1.kind.isBand) = s.contents := by
      simp [contents, List.filter_eq_self, elementNode, NodeKind.isBand]
    have hband : ¬ (!s.band.kind.isBand) = true := by simp [isBand_of_bucket? hs.bucket]
    rw [List.flatMap_cons, List.filter_append, ih, housed, List.filter_cons, if_neg hband,
      hcontents, List.flatMap_cons]

/-- Where no earlier shelf is for a bucket, its first band is that of the shelf. -/
theorem find?_housed {bucketOf : Element → Bucket}
    (hpairwise : shelves.Pairwise fun s t => ∀ e ∈ t.members, s.key.1 ≠ some (bucketOf e))
    {s : Shelf α} (hs : s ∈ shelves) {e : Element} (he : e ∈ s.members)
    (hbucket : s.key.1 = some (bucketOf e)) :
    ((shelves.flatMap housed).find? (Nesting.bucket? · = some (bucketOf e))).map (·.1) =
      some s.band := by
  induction hpairwise with
  | nil => cases hs
  | @cons t rest hne _ ih =>
    rw [List.flatMap_cons, List.find?_append]
    -- elements are no bands, so only the band of the first shelf could be found before the others
    rcases List.mem_cons.1 hs with rfl | hs
    · have hfound : s.housed.find? (Nesting.bucket? · = some (bucketOf e)) =
          some (s.band, s.house) :=
        List.find?_cons_of_pos (decide_eq_true hbucket)
      rw [hfound]
      rfl
    · have hskip : t.housed.find? (Nesting.bucket? · = some (bucketOf e)) = none := by
        refine List.find?_eq_none.2 fun x hx h => ?_
        have hx' := of_decide_eq_true h
        rcases List.mem_cons.1 hx with rfl | hx
        · exact hne s hs e he hx'
        · obtain ⟨_, -, rfl⟩ := List.mem_map.1 hx
          cases hx'
      rw [hskip, Option.none_or]
      exact ih hs

/-- Nodes name the band they stand in as their parent. -/
theorem parent_of_mem_housed (h : List.Forall₂ Shows shelves shown)
    {x : Node α × Option (Node α)} (hx : x ∈ shelves.flatMap housed) :
    x.1.parent = x.2.map (·.id) := by
  induction h with
  | nil => cases hx
  | cons hs _ ih =>
    rcases List.mem_append.1 hx with hx | hx
    · rcases List.mem_cons.1 hx with rfl | hx
      · exact hs.parent
      · obtain ⟨_, -, rfl⟩ := List.mem_map.1 hx
        rfl
    · exact ih hx

/-- Members and contents of shelves correspond to each other. -/
theorem forall₂_contents {R : Element → Node α × Option (Node α) → Prop}
    (h : ∀ s ∈ shelves, ∀ e ∈ s.members,
      R e (elementNode e (s.position e) s.band.id, some s.band)) :
    List.Forall₂ R (shelves.flatMap (·.members)) (shelves.flatMap contents) := by
  induction shelves with
  | nil => exact .nil
  | cons s rest ih =>
    rw [List.flatMap_cons, List.flatMap_cons]
    refine List.rel_append ?_ (ih fun s' hs' => h s' (.tail _ hs'))
    rw [contents, List.forall₂_map_right_iff, List.forall₂_same]
    exact h s (.head _)

end Grid.Shelf

/-! ### The diagram of a document -/

section

variable {d : Document} {shelves : List (Grid.Shelf α)}

/-- Shelves that show those of a document hold elements of their buckets. -/
theorem Document.key_of_mem_members (h : List.Forall₂ Grid.Shelf.Shows shelves d.shelves)
    {s : Grid.Shelf α} (hs : s ∈ shelves) {e : Element} (he : e ∈ s.members) :
    s.key.1 = some (d.bucketOf e) := by
  have hkey : s.key ∈ shelves.map Grid.Shelf.key := List.mem_map_of_mem hs
  rw [Grid.Shelf.map_key h] at hkey
  obtain ⟨b, hb, hbkey⟩ := List.mem_map.1 hkey
  have hmembers : b.members = s.members := congrArg Prod.snd hbkey
  have hmember : e ∈ b.members := hmembers ▸ he
  rw [Document.bucketOf_of_mem_shelves hb hmember, ← hbkey]

/-- No shelf holds an element of the bucket of an earlier one. -/
theorem Document.key_pairwise (h : List.Forall₂ Grid.Shelf.Shows shelves d.shelves) :
    shelves.Pairwise fun s t => ∀ e ∈ t.members, s.key.1 ≠ some (d.bucketOf e) := by
  have hpairwise : (shelves.map Grid.Shelf.key).Pairwise fun s t =>
      ∀ e ∈ t.2, s.1 ≠ some (d.bucketOf e) := by
    rw [Grid.Shelf.map_key h, List.pairwise_map]
    exact d.shelves_pairwise.imp fun hne e he heq => hne e he (Option.some.inj heq).symm
  exact List.pairwise_map.1 hpairwise

end

variable [Scalar α]

/-- A diagram whose nodes are those of the grid shows every band and every element once. -/
theorem Diagram.conserves_of_nodes (d : Document) {config : Grid.Config α} {box : String → Box α}
    {width : α} {diagram : Diagram α} (hnodes : diagram.nodes = Grid.nodes config box width d.bands) :
    diagram.Conserves d := by
  obtain ⟨shelves, hshows, hhoused⟩ := Grid.exists_shelves_nodes config box width d.bands
  have hkeys : shelves.map Grid.Shelf.key = d.shelves.map fun b => (some b.bucket, b.members) :=
    Grid.Shelf.map_key hshows
  have hmap : diagram.housed = shelves.flatMap Grid.Shelf.housed := by
    rw [Diagram.housed, hnodes, hhoused]
  refine ⟨?bands, ⟨shelves.flatMap (·.members), ?members, ?shown⟩, ?parents⟩
  case bands =>
    have hbuckets : shelves.map (·.key.1) = d.bandBuckets.map some := by
      have hfst := congrArg (List.map Prod.fst) hkeys
      rw [List.map_map, List.map_map] at hfst
      rw [← Band.map_bucket_shelve .none d.bandBuckets, ← Document.shelves_eq_shelve, List.map_map]
      exact hfst
    rw [hmap, Grid.Shelf.filter_isBand hshows, List.map_map]
    exact (List.Perm.of_eq hbuckets).trans (d.bandBuckets_perm.map some)
  case members =>
    have hsnd := congrArg (fun keys => (keys.map Prod.snd).flatten) hkeys
    simp only [List.map_map] at hsnd
    exact (List.Perm.of_eq hsnd).trans d.members_shelves_perm
  case shown =>
    rw [hmap, Grid.Shelf.filter_not_isBand hshows]
    refine Grid.Shelf.forall₂_contents fun s hs e he => ⟨s.band, s.position e, ?_, rfl⟩
    rw [Diagram.firstBand?, hmap]
    exact Grid.Shelf.find?_housed (Document.key_pairwise hshows) hs he
      (Document.key_of_mem_members hshows hs he)
  case parents =>
    rw [hmap]
    exact fun x hx => Grid.Shelf.parent_of_mem_housed hshows hx

namespace Layout

/-- **Conservation**: with any solver that gives every element its place there is a diagram, and it
shows every band that the document asks for and every element that counts, each once, and nothing
else, with every element in the first band of its bucket. -/
theorem diagram_conserves {l : Layout α} {d : Document} (h : l.Places d) :
    ∃ diagram, l.diagram d = .ok diagram ∧ diagram.Conserves d := by
  obtain ⟨boxes, hdiagram⟩ := exists_diagram_of_places h
  exact ⟨_, hdiagram, Diagram.conserves_of_nodes d rfl⟩

/-- A pool and a lane that are declared twice, a lane of an undeclared pool, an identifier that is
used twice, and a home that is unknown. -/
def crowded : Document where
  pools := [⟨"Shop"⟩, ⟨"Bank"⟩, ⟨"Shop"⟩]
  lanes := [⟨"Shop", "Desk"⟩, ⟨"Shop", "Desk"⟩, ⟨"Courier", "Van"⟩]
  elements := [
    ⟨"order", "Desk", "Order", .activity, none, []⟩,
    ⟨"pay", "Bank", "Pay", .activity, none, []⟩,
    ⟨"order", "Bank", "Order again", .decision, none, []⟩,
    ⟨"ship", "Nowhere", "Ship", .event, none, []⟩]
  connections := [⟨"order", "pay", none, .message⟩, ⟨"pay", "ship", none, .sequence⟩]

theorem diagram_conserves_crowded :
    (standard : Layout Rat).Places crowded ∧
      ∃ diagram, (standard : Layout Rat).diagram crowded = .ok diagram ∧
        diagram.Conserves crowded := by
  have hplaces : (standard : Layout Rat).Places crowded := layered_places _ _ _
  exact ⟨hplaces, diagram_conserves hplaces⟩

end Layout

end Swimlane
