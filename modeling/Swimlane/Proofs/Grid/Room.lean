import Swimlane.Proofs.Flow.Direction
import Swimlane.Proofs.Layout

/-!
# Room for shapes

The solver places an element by the centre of its reserved place, and the grid draws its shape with
the left side there and with the middle line there. The distances that are used when none are given
leave room for that: no shape reaches into the next column or to the next shape of its own.

- `Document.rank`: the column of an element.
- `Document.Roomy`: places that leave room for the shapes of a document.
- `Document.size_of_lookup_solve`: an element is placed in its reserved size.
- `Document.placed`, `Document.roomy_placed`: the layered placement leaves room.
- `Layout.standard_diagram`: a diagram is composed of it when nothing else is asked for.
-/

namespace Swimlane

open Scalar

namespace Document

/-- The column of an element, counted from the left. -/
def rank (d : Document) (id : String) : Nat := d.flowGraph.digraph.acyclic.rank id

/-- Places of elements that leave room for their shapes, when each is drawn with its left side and
its middle line at its place: the places have the reserved widths; there is nothing left of the
origin; a shape ends before the next column begins; and the shapes of a column stand one above
another. -/
structure Roomy (d : Document) (box : String → Box Rat) : Prop where
  width_eq : ∀ e ∈ d.uniqueElements, (box e.id).width = e.kind.reserved.width
  nonneg : ∀ e ∈ d.uniqueElements, 0 ≤ (box e.id).x
  beside : ∀ e ∈ d.uniqueElements, ∀ f ∈ d.uniqueElements, d.rank e.id < d.rank f.id →
    (box e.id).x + e.kind.drawn.width ≤ (box f.id).x
  stacked : ∀ e ∈ d.uniqueElements, ∀ f ∈ d.uniqueElements, d.rank e.id = d.rank f.id →
    e.id ≠ f.id → (box e.id).x = (box f.id).x ∧
      ((box e.id).y + e.kind.drawn.height / 2 ≤ (box f.id).y - f.kind.drawn.height / 2 ∨
        (box f.id).y + f.kind.drawn.height / 2 ≤ (box e.id).y - e.kind.drawn.height / 2)

variable {α : Type} [Scalar α]

/-- An element is placed in its reserved size. -/
theorem size_of_lookup_solve {d : Document} {config : Layered.Config α} {e : Element} {b : Box α}
    (he : e ∈ d.uniqueElements)
    (hb : (Layered.solve config (d.flowGraph.map whole)).lookup e.id = some b) :
    b.width = whole e.kind.reserved.width ∧ b.height = whole e.kind.reserved.height := by
  have hnode : (e.id, e.kind.reserved) ∈ d.flowGraph.nodes := List.mem_map_of_mem he
  have hsized : (e.id, (⟨whole e.kind.reserved.width, whole e.kind.reserved.height⟩ : Size α)) ∈
      (d.flowGraph.map whole).nodes :=
    List.mem_map_of_mem (f := fun n => (n.1, (⟨whole n.2.width, whole n.2.height⟩ : Size α))) hnode
  have hplaced := Layered.mem_nodes_of_lookup_solve hb
  have hnodup := (d.flowGraph.map (whole (α := α))).nodup_ids
  have heq := (Table.lookup_eq_some_of_mem hnodup hplaced).symm.trans
    (Table.lookup_eq_some_of_mem hnodup hsized)
  exact Size.mk.inj (Option.some.inj heq)

/-- What the layered placement finds for an element. -/
theorem exists_lookup_solve (config : Layered.Config α) {d : Document} {e : Element}
    (he : e ∈ d.uniqueElements) :
    ∃ b, (Layered.solve config (d.flowGraph.map whole)).lookup e.id = some b := by
  obtain ⟨boxes, hboxes, hplaced⟩ := Layout.layered_places .standard config d
  cases hboxes
  exact Option.isSome_iff_exists.1 (hplaced e he)

theorem mem_ids_map {d : Document} {e : Element} (he : e ∈ d.uniqueElements) :
    e.id ∈ (d.flowGraph.map (whole (α := α))).ids := by
  rw [FlowGraph.ids_map, ids_flowGraph]
  exact List.mem_map_of_mem he

/-! ### The distances that are used when none are given -/

/-- The places of the elements of a document, exactly computed. -/
def placed (d : Document) : List (String × Box Rat) :=
  Layered.solve .standard (d.flowGraph.map whole)

theorem rank_map (d : Document) (id : String) :
    (d.flowGraph.map (whole (α := α))).digraph.acyclic.rank id = d.rank id := by
  rw [FlowGraph.digraph_map, rank]

theorem nonneg_of_mem_flowGraph {d : Document} {n : String × Size Rat}
    (hn : n ∈ (d.flowGraph.map whole).nodes) : 0 ≤ n.2.width ∧ 0 ≤ n.2.height := by
  obtain ⟨m, -, rfl⟩ := List.mem_map.1 hn
  exact ⟨Nat.cast_nonneg m.2.width, Nat.cast_nonneg m.2.height⟩

/-- An element is placed right of the origin, with the place that is reserved for it. -/
theorem exists_lookup_placed {d : Document} {e : Element} (he : e ∈ d.uniqueElements) :
    ∃ b, d.placed.lookup e.id = some b ∧ b.width = e.kind.reserved.width ∧
      b.height = e.kind.reserved.height ∧ 0 ≤ b.x - b.width / 2 := by
  obtain ⟨b, hb⟩ := exists_lookup_solve (α := Rat) .standard he
  obtain ⟨hwidth, hheight⟩ := size_of_lookup_solve he hb
  have hleft := Layered.solve_nonneg (fun n hn => (nonneg_of_mem_flowGraph hn).1) (by decide) hb
  exact ⟨b, hb, hwidth, hheight, hleft⟩

theorem isSome_lookup_placed {d : Document} {e : Element} (he : e ∈ d.uniqueElements) :
    (d.placed.lookup e.id).isSome := by
  obtain ⟨b, hb, -⟩ := exists_lookup_placed he
  rw [hb]
  rfl

/-- Places in different columns are 60 units apart. -/
theorem placed_apart {d : Document} {e f : Element} (he : e ∈ d.uniqueElements)
    (hf : f ∈ d.uniqueElements) (hlt : d.rank e.id < d.rank f.id) {a b : Box Rat}
    (ha : d.placed.lookup e.id = some a) (hb : d.placed.lookup f.id = some b) :
    a.x + a.width / 2 + 60 ≤ b.x - b.width / 2 := by
  rw [← d.rank_map (α := Rat), ← d.rank_map (α := Rat)] at hlt
  have hwidth : ∀ n ∈ (d.flowGraph.map (whole (α := Rat))).nodes, 0 ≤ n.2.width :=
    fun n hn => (nonneg_of_mem_flowGraph hn).1
  have hsep : (0 : Rat) ≤ (Layered.Config.standard : Layered.Config Rat).rankSep := by decide
  obtain ⟨a', b', ha', hb', hapart⟩ :=
    Layered.solve_apart hwidth hsep (mem_ids_map he) (mem_ids_map hf) hlt
  cases ha.symm.trans ha'
  cases hb.symm.trans hb'
  exact hapart

/-- Places in one column stand on one line, 50 units apart. -/
theorem placed_stacked {d : Document} {e f : Element} (he : e ∈ d.uniqueElements)
    (hf : f ∈ d.uniqueElements) (hne : e.id ≠ f.id) (heq : d.rank e.id = d.rank f.id)
    {a b : Box Rat} (ha : d.placed.lookup e.id = some a) (hb : d.placed.lookup f.id = some b) :
    a.x = b.x ∧ (a.y + a.height / 2 + 50 ≤ b.y - b.height / 2 ∨
      b.y + b.height / 2 + 50 ≤ a.y - a.height / 2) := by
  rw [← d.rank_map (α := Rat), ← d.rank_map (α := Rat)] at heq
  have hheight : ∀ n ∈ (d.flowGraph.map (whole (α := Rat))).nodes, 0 ≤ n.2.height :=
    fun n hn => (nonneg_of_mem_flowGraph hn).2
  have hsep : (0 : Rat) ≤ (Layered.Config.standard : Layered.Config Rat).nodeSep := by decide
  obtain ⟨a', b', ha', hb', hapart⟩ :=
    Layered.solve_stacked hheight hsep (mem_ids_map he) (mem_ids_map hf) hne heq
  cases ha.symm.trans ha'
  cases hb.symm.trans hb'
  exact hapart

/-- The layered placement leaves room for the shapes. -/
theorem roomy_placed (d : Document) : d.Roomy (Layout.boxOf d.placed) := by
  have hreserved (k : ElementKind) :
      (50 : Rat) ≤ k.reserved.width ∧ (k.reserved.width : Rat) ≤ 140 := by
    exact_mod_cast k.reserved_width_bounds
  have hdrawn (k : ElementKind) : (k.drawn.width : Rat) ≤ k.reserved.width ∧
      (k.drawn.height : Rat) ≤ k.reserved.height := by
    exact_mod_cast k.drawn_le_reserved
  refine ⟨?width, ?nonneg, ?beside, ?stacked⟩
  case width =>
    intro e he
    obtain ⟨b, hb, hwidth, -⟩ := exists_lookup_placed he
    rw [Layout.boxOf_of_lookup hb, hwidth]
  case nonneg =>
    intro e he
    obtain ⟨b, hb, hwidth, -, hleft⟩ := exists_lookup_placed he
    rw [Layout.boxOf_of_lookup hb]
    linarith [hreserved e.kind]
  case beside =>
    intro e he f hf hlt
    obtain ⟨a, ha, hawidth, -⟩ := exists_lookup_placed he
    obtain ⟨b, hb, hbwidth, -⟩ := exists_lookup_placed hf
    have hapart := placed_apart he hf hlt ha hb
    rw [Layout.boxOf_of_lookup ha, Layout.boxOf_of_lookup hb]
    -- a shape reaches at most 70 units beyond its place, the next one begins 85 or more beyond it
    linarith [hreserved e.kind, hreserved f.kind, hdrawn e.kind]
  case stacked =>
    intro e he f hf heq hne
    obtain ⟨a, ha, -, haheight, -⟩ := exists_lookup_placed he
    obtain ⟨b, hb, -, hbheight, -⟩ := exists_lookup_placed hf
    obtain ⟨hx, habove | hbelow⟩ := placed_stacked he hf hne heq ha hb
    · rw [Layout.boxOf_of_lookup ha, Layout.boxOf_of_lookup hb]
      refine ⟨hx, .inl ?_⟩
      linarith [hdrawn e.kind, hdrawn f.kind]
    · rw [Layout.boxOf_of_lookup ha, Layout.boxOf_of_lookup hb]
      refine ⟨hx, .inr ?_⟩
      linarith [hdrawn e.kind, hdrawn f.kind]

end Document

/-- When nothing else is asked for, a diagram is composed of these places. -/
theorem Layout.standard_diagram (d : Document) :
    (standard : Layout Rat).diagram d = .ok (standard.compose d d.placed) := by
  have hplaces : (standard : Layout Rat).Places d := layered_places .standard .standard d
  obtain ⟨boxes, hdiagram⟩ := exists_diagram_of_places hplaces
  obtain ⟨boxes', hsolved, -, hcompose⟩ := exists_solved_of_diagram hdiagram
  have hplaced : (Except.ok d.placed : Except SolverFault _) = .ok boxes' := hsolved
  rw [hdiagram, hcompose, Except.ok.inj hplaced]

end Swimlane
