import Swimlane.Proofs.Grid.Conservation
import Swimlane.Proofs.Grid.Position

/-!
# Chains of parents

A node names its parent, and the name is looked up: it stands for the first node that has it. Where
names clash, a chain of parents may leave the bands that a node stands in, and it could come round
in a circle. In the diagram of a document it does not, as every step of a chain leads further to the
front of the list of nodes.

- `Diagram.Climbs`: the sum along a chain of parents, without a bound on its length.
- `Diagram.ParentsFirst`: every name of a parent stands for an earlier node.
- `Diagram.ParentsFirst.exists_climbs`: then every chain ends.
- `Nesting.mem_of_house_foldl`: the band that a node stands in was opened in front of it.
- `Layout.absolutePosition_ends`: every node of the diagram of a document has an absolute position.
-/

namespace Swimlane

variable {α : Type}

namespace Diagram

/-! ### Chains that end -/

/-- The sum of the positions along a chain of parents, from a point and the parent that is named
there. The chain ends where no parent is named, or an unknown one. -/
inductive Climbs [Add α] (diagram : Diagram α) : Point α → Option String → Point α → Prop where
  | top (p : Point α) : Climbs diagram p none p
  | unknown {parent : String} (h : diagram.node? parent = none) (p : Point α) :
      Climbs diagram p (some parent) p
  | step {parent : String} {n : Node α} (h : diagram.node? parent = some n) {p q : Point α}
      (rest : Climbs diagram ⟨p.x + n.position.x, p.y + n.position.y⟩ n.parent q) :
      Climbs diagram p (some parent) q

/-- The first node that has the name of a node's parent stands in front of that node. -/
def ParentsFirst (diagram : Diagram α) : Prop :=
  ∀ (i : Nat) (hi : i < diagram.nodes.length) (parent : String),
    diagram.nodes[i].parent = some parent → diagram.nodes.findIdx (·.id = parent) < i

variable {diagram : Diagram α}

/-- A sum that is found within a bound is the sum of the chain. -/
theorem climbs_of_climb [Add α] {fuel : Nat} {p q : Point α} {parent : Option String}
    (h : diagram.climb fuel p parent = some q) : diagram.Climbs p parent q := by
  fun_induction climb diagram fuel p parent with
  | case1 _ p =>
    obtain rfl : p = q := Option.some.inj h
    exact .top p
  | case2 _ p parent hn =>
    obtain rfl : p = q := Option.some.inj h
    exact .unknown hn p
  | case3 => cases h
  | case4 p parent n hn fuel ih => exact .step hn (ih h)

/-- The place of the node that an identifier stands for. -/
theorem getElem_findIdx_of_node? {id : String} {n : Node α} (h : diagram.node? id = some n) :
    ∃ hi : diagram.nodes.findIdx (·.id = id) < diagram.nodes.length,
      diagram.nodes[diagram.nodes.findIdx (·.id = id)] = n := by
  rw [node?, List.find?_eq_getElem?_findIdx] at h
  exact List.getElem?_eq_some_iff.1 h

/-- Where parents stand first, a chain is not longer than the place of its first parent. -/
theorem ParentsFirst.exists_climb [Add α] (h : diagram.ParentsFirst) {fuel : Nat}
    {parent : Option String}
    (hfuel : ∀ id, parent = some id → diagram.nodes.findIdx (·.id = id) < fuel) (p : Point α) :
    ∃ q, diagram.climb fuel p parent = some q := by
  induction fuel generalizing parent p with
  | zero =>
    cases parent with
    | none => exact ⟨p, rfl⟩
    | some id => exact absurd (hfuel id rfl) (Nat.not_lt_zero _)
  | succ fuel ih =>
    cases parent with
    | none => exact ⟨p, rfl⟩
    | some id =>
      cases hn : diagram.node? id with
      | none => exact ⟨p, by rw [climb, hn]⟩
      | some n =>
        rw [climb_succ hn]
        -- the next name stands for a node in front of this one
        obtain ⟨hi, rfl⟩ := getElem_findIdx_of_node? hn
        refine ih (fun id' hid' => ?_) _
        exact (h _ hi id' hid').trans_le (Nat.lt_succ_iff.1 (hfuel id rfl))

/-- Where parents stand first, the chain of every node ends, and its sum is the node's absolute
position. -/
theorem ParentsFirst.exists_climbs [Add α] (h : diagram.ParentsFirst) {n : Node α}
    (hn : n ∈ diagram.nodes) :
    ∃ m p, diagram.node? n.id = some m ∧ diagram.Climbs m.position m.parent p ∧
      diagram.absolutePosition n.id = .ok p := by
  obtain ⟨m, -, -, hm⟩ := exists_node?_of_mem hn
  obtain ⟨hi, hget⟩ := getElem_findIdx_of_node? hm
  have hfuel : ∀ id, m.parent = some id →
      diagram.nodes.findIdx (·.id = id) < diagram.nodes.length :=
    fun id hid => (h _ hi id (hget ▸ hid)).trans hi
  obtain ⟨p, hp⟩ := h.exists_climb hfuel m.position
  refine ⟨m, p, hm, climbs_of_climb hp, ?_⟩
  rw [absolutePosition, hm]
  simp only [hp]

end Diagram

/-! ### Bands stand in front of what they hold -/

namespace Nesting

/-- The open bands as a list. -/
def opened (outer : Nesting α) : List (Node α) := outer.pool.toList ++ outer.band.toList

theorem mem_opened_of_house {outer : Nesting α} {n m : Node α} (h : outer.house n = some m) :
    m ∈ outer.opened := by
  rw [opened, List.mem_append, Option.mem_toList, Option.mem_toList]
  rw [house] at h
  split at h
  · cases h
  · exact .inl h
  · exact .inr h

/-- A node opens no band but itself. -/
theorem opened_enter_subset (outer : Nesting α) (n : Node α) :
    (outer.enter n).opened ⊆ n :: outer.opened := by
  intro m hm
  rw [enter] at hm
  split at hm <;> simp [opened] at hm ⊢ <;> tauto

/-- What is open behind a list of nodes was open before it, or stands in it. -/
theorem opened_foldl_subset (outer : Nesting α) (nodes : List (Node α)) :
    (nodes.foldl enter outer).opened ⊆ nodes ++ outer.opened := by
  induction nodes generalizing outer with
  | nil => exact List.Subset.refl _
  | cons n rest ih =>
    intro m hm
    rcases List.mem_append.1 (ih (outer.enter n) hm) with hrest | hopened
    · exact .tail _ (List.mem_append_left _ hrest)
    · rcases List.mem_cons.1 (opened_enter_subset outer n hopened) with rfl | houter
      · exact .head _
      · exact List.mem_append_right _ houter

/-- The band that a node stands in stands in front of the node. -/
theorem mem_of_house_foldl {front : List (Node α)} {n m : Node α}
    (h : (front.foldl enter outside).house n = some m) : m ∈ front := by
  have hm := opened_foldl_subset outside front (mem_opened_of_house h)
  rwa [show (outside : Nesting α).opened = [] from rfl, List.append_nil] at hm

/-- A node stands in the band that is open behind the nodes in front of it. -/
theorem mem_housed (outer : Nesting α) (front : List (Node α)) (n : Node α)
    (back : List (Node α)) :
    (n, (front.foldl enter outer).house n) ∈ outer.housed (front ++ n :: back) := by
  induction front generalizing outer with
  | nil => exact .head _
  | cons m front ih => exact .tail _ (ih _)

end Nesting

/-- In a diagram that shows a document, the parent of a node stands in front of it. -/
theorem Diagram.Conserves.parentsFirst {diagram : Diagram α} {d : Document}
    (h : diagram.Conserves d) : diagram.ParentsFirst := by
  intro i hi parent hparent
  have hsplit := List.take_append_drop i diagram.nodes
  rw [List.drop_eq_getElem_cons hi] at hsplit
  have hhoused := Nesting.mem_housed .outside (diagram.nodes.take i) diagram.nodes[i]
    (diagram.nodes.drop (i + 1))
  rw [hsplit] at hhoused
  have hhouse := h.parents _ hhoused
  rw [hparent] at hhouse
  obtain ⟨m, hm, hid⟩ := Option.map_eq_some_iff.1 hhouse.symm
  obtain ⟨j, hj, hget⟩ := List.mem_take_iff_getElem.1 (Nesting.mem_of_house_foldl hm)
  have hj := Nat.lt_min.1 hj
  have hle : diagram.nodes.findIdx (·.id = parent) ≤ j := by
    by_contra hlt
    have hnot := List.not_of_lt_findIdx (Nat.lt_of_not_le hlt)
    simp [hget, hid] at hnot
  exact hle.trans_lt hj.1

namespace Layout

variable [Scalar α]

/-- **Every chain of parents ends**: in the diagram of a document, whatever identifiers clash and
whatever solver has placed the elements, the name of a parent always stands for an earlier node, and
so every node has an absolute position. -/
theorem absolutePosition_ends {l : Layout α} {d : Document} {diagram : Diagram α}
    (h : l.diagram d = .ok diagram) :
    diagram.ParentsFirst ∧
      (∀ n ∈ diagram.nodes, ∀ parent, n.parent = some parent →
        ∃ m ∈ diagram.nodes, m.id = parent) ∧
      ∀ n ∈ diagram.nodes, ∃ m p, diagram.node? n.id = some m ∧
        diagram.Climbs m.position m.parent p ∧ diagram.absolutePosition n.id = .ok p := by
  obtain ⟨boxes, -, -, rfl⟩ := exists_solved_of_diagram h
  have hfirst : (l.compose d boxes).ParentsFirst :=
    (Diagram.conserves_of_nodes d rfl).parentsFirst
  refine ⟨hfirst, fun n hn parent hparent => ?_, fun n hn => hfirst.exists_climbs hn⟩
  obtain ⟨i, hi, rfl⟩ := List.getElem_of_mem hn
  have hlt := (hfirst i hi parent hparent).trans hi
  obtain ⟨m, hm, hid⟩ := List.findIdx_lt_length.1 hlt
  exact ⟨m, hm, of_decide_eq_true hid⟩

/-- Elements that are called like bands, and bands that are called alike. -/
def namesakes : Document where
  pools := [⟨"a"⟩, ⟨"a"⟩, ⟨"a#2"⟩]
  lanes := [⟨"a", "x"⟩, ⟨"a", "x"⟩]
  elements := [
    ⟨"pool-a", "x", "One", .activity, none, []⟩,
    ⟨"lane-a-x", "a#2", "Two", .event, none, []⟩,
    ⟨"pool-a#2", "nowhere", "Three", .decision, none, []⟩]
  connections := [⟨"pool-a", "lane-a-x", none, .sequence⟩]

theorem absolutePosition_ends_namesakes :
    ∃ diagram, (standard : Layout Rat).diagram namesakes = .ok diagram ∧ diagram.ParentsFirst ∧
      (∀ n ∈ diagram.nodes, ∀ parent, n.parent = some parent →
        ∃ m ∈ diagram.nodes, m.id = parent) ∧
      ∀ n ∈ diagram.nodes, ∃ m p, diagram.node? n.id = some m ∧
        diagram.Climbs m.position m.parent p ∧ diagram.absolutePosition n.id = .ok p := by
  obtain ⟨boxes, hdiagram⟩ := exists_diagram_of_places
    (layered_places (Grid.Config.standard : Grid.Config Rat) .standard namesakes)
  exact ⟨_, hdiagram, absolutePosition_ends hdiagram⟩

end Layout

end Swimlane
