import Swimlane.Proofs.Lengths
import Swimlane.Proofs.Scalar.Extended
import Swimlane.Proofs.Settings.Bounds

/-!
# Finite layouts

Settings may be infinite: a bound from below lets infinity pass. What is accepted then decides
whether diagrams are finite, for no constant is so small a part of the layout that it never shows.

- `Diagram.Finite`, `Settings.Finite`: every length, and every constant, is finite.
- `Layout.probe`: a text whose diagram shows every constant.
- `Layout.finite_of_probe`: where its diagram is finite, all constants are.
- `Settings.generate_finite_iff`: accepted settings give finite diagrams if and only if all their
  constants are finite.
-/

namespace Swimlane

open Scalar Extended

/-! ### Finite diagrams and settings -/

/-- Every length of a diagram is finite. -/
def Diagram.Finite (d : Diagram Extended) : Prop := d.All (·.isFinite = true)

/-- Every constant of the layout is finite. -/
structure Settings.Finite (s : Settings Extended) : Prop where
  grid : s.grid.All (·.isFinite = true)
  layered : s.layered.All (·.isFinite = true)

/-- Arithmetic does not lead out of what is finite. -/
theorem Extended.closed_isFinite : Closed fun x : Extended => x.isFinite = true where
  whole := isFinite_whole
  add ha hb := isFinite_add_iff.2 ⟨ha, hb⟩
  sub ha hb := isFinite_sub_iff.2 ⟨ha, hb⟩
  times n ha := (isFinite_times _ n).trans ha
  half ha := (isFinite_half _).trans ha

/-! ### Constants that show -/

namespace Grid

variable {config : Config Extended} (hconfig : config.NonNegative)

include hconfig

/-- Where the boxes end at finite places, the constants show in the width of the grid. -/
theorem isFinite_of_width {boxes : List (String × Box Extended)}
    (hright : ∀ b ∈ boxes, b.2.rightEdge.isFinite = true)
    (h : (width config boxes).isFinite = true) :
    config.gridPadding.isFinite = true ∧ config.minGridWidth.isFinite = true := by
  have hrightmost : isFinite (largest (whole 0) (boxes.map (·.2.rightEdge))) = true :=
    closed_isFinite.largest fun r hr => by
      obtain ⟨b, hb, rfl⟩ := List.mem_map.1 hr
      exact hright b hb
  have hpadded := (BoundedBelow.of_isFinite hrightmost).add (.of_nonneg hconfig.gridPadding)
  obtain ⟨hsum, hleast⟩ :=
    (isFinite_larger_iff hpadded (.of_nonneg hconfig.minGridWidth)).1 h
  exact ⟨(isFinite_add_iff.1 hsum).2, hleast⟩

/-- The constants show in the band of a lane, and so do the places of its elements. -/
theorem isFinite_of_laneNodes {box : String → Box Extended} {gridWidth top : Extended}
    {parent : String} {band : Band.Lane}
    (h : ∀ n ∈ laneNodes config box gridWidth parent top band, n.All (·.isFinite = true)) :
    config.headerWidth.isFinite = true ∧ config.laneMinHeight.isFinite = true ∧
      config.lanePadding.isFinite = true ∧
      ∀ e ∈ band.members, (box e.id).x.isFinite = true ∧ (box e.id).y.isFinite = true := by
  have hlane := h _ (.head _)
  have hmembers : ∀ e ∈ band.members,
      (box e.id).x.isFinite = true ∧ (box e.id).y.isFinite = true := by
    intro e he
    have hnode := h _ (.tail _ (List.mem_map_of_mem he))
    -- the place above the line of the edges, less the middle of the group
    have hplace := (isFinite_sub_iff.1 hnode.y).1
    have hy := (isFinite_sub_iff.1 (isFinite_add_iff.1 hplace).2).1
    exact ⟨hnode.x, hy⟩
  have hys : ∀ y ∈ places box band.members, y.isFinite = true := by
    intro y hy
    obtain ⟨e, he, rfl⟩ := List.mem_map.1 hy
    exact (hmembers e he).2
  have hspan : (span (places box band.members)).isFinite = true :=
    isFinite_sub_iff.2 ⟨closed_isFinite.largest hys, closed_isFinite.smallest hys⟩
  have hpadded := (BoundedBelow.of_isFinite hspan).add (.of_nonneg hconfig.lanePadding)
  obtain ⟨hleast, hsum⟩ :=
    (isFinite_larger_iff (.of_nonneg hconfig.laneMinHeight) hpadded).1 hlane.height
  exact ⟨hlane.x, hleast, (isFinite_add_iff.1 hsum).2, hmembers⟩

end Grid

namespace Layout

/-! ### A text that shows every constant -/

variable {config : Grid.Config Extended} {solver : Layered.Config Extended}

/-- A lane with two elements, of which the first leads to the second, and a pool below. -/
def probe : String := "pool: P\nlane: P > L\ntask: a [L] A\ntask: b [L] B\nflow: a -> b\npool: Q"

/-- One of the elements. -/
def probeElement (id label : String) : Element := ⟨id, "L", label, .activity, some "user", []⟩

theorem bands_probe : (Notation.parse probe).bands =
    [⟨"pool-P", "P", .lanes [⟨"lane-P-L", "L", [probeElement "a" "A", probeElement "b" "B"]⟩]⟩,
      ⟨"pool-Q", "Q", .row []⟩] := by
  decide +kernel

theorem nodes_flowGraph_probe :
    (Notation.parse probe).flowGraph.nodes = [("a", ⟨140, 60⟩), ("b", ⟨140, 60⟩)] := by
  decide +kernel

/-- The two elements stand in two columns, which no sweep changes. -/
theorem orderedColumns_probe (sweeps : Int) :
    Layered.orderedColumns sweeps (Notation.parse probe).flowGraph.digraph.acyclic =
      [["a"], ["b"]] := by
  have hcolumns : (Notation.parse probe).flowGraph.digraph.acyclic.columns = [["a"], ["b"]] := by
    decide +kernel
  have hreordered := Digraph.ordered_reordered (Notation.parse probe).flowGraph.digraph.acyclic
    sweeps.toNat [["a"], ["b"]]
  rw [Layered.orderedColumns, hcolumns]
  exact (Digraph.Reordered.eq_of_length_le_one hreordered (by simp)).symm

/-- The places of the two elements. -/
theorem solve_probe :
    Layered.solve solver ((Notation.parse probe).flowGraph.map whole) =
      Layered.place solver [[("a", ⟨whole 140, whole 60⟩)], [("b", ⟨whole 140, whole 60⟩)]] := by
  have hnodes : ((Notation.parse probe).flowGraph.map (whole : Nat → Extended)).nodes =
      [("a", ⟨whole 140, whole 60⟩), ("b", ⟨whole 140, whole 60⟩)] := by
    simp only [FlowGraph.map, nodes_flowGraph_probe, List.map]
  rw [Layered.solve, FlowGraph.digraph_map, orderedColumns_probe]
  simp only [Layered.sized, hnodes, List.map]
  rfl

/-- Both distances show: the first column is no higher than its node, but even so the distance
between nodes enters its height; and the second column stands behind the distance of columns. -/
theorem exists_place_probe (solver : Layered.Config Extended) (size : Size Extended)
    (hwidth : size.width.isFinite = true) :
    ∃ a b : Box Extended,
      Layered.place solver [[("a", size)], [("b", size)]] = [("a", a), ("b", b)] ∧
      a.rightEdge.isFinite = true ∧
      (a.y.isFinite = true → solver.nodeSep.isFinite = true) ∧
      (b.x.isFinite = true → solver.rankSep.isFinite = true ∧ b.rightEdge.isFinite = true) := by
  refine ⟨_, _, rfl, ?_, fun hy => ?_, fun hx => ?_⟩
  · have hcolumn : (Layered.columnWidth [("a", size)]).isFinite = true := hwidth
    simp [Box.rightEdge, hcolumn, hwidth]
  · simp only [Layered.columnHeight, isFinite_add_iff, isFinite_sub_iff, isFinite_half,
      isFinite_times] at hy
    exact hy.1.2.2
  · simp only [isFinite_add_iff, isFinite_half] at hx
    simp [Box.rightEdge, hx, hwidth]

/-- **A text that shows every constant**: where the constants of the grid are not negative, they and
the distances of the placement are finite if this diagram is. -/
theorem finite_of_probe (hconfig : config.NonNegative) {d : Diagram Extended}
    (h : (layered config solver).generate probe = .ok d) (hd : d.Finite) :
    config.All (·.isFinite = true) ∧ solver.All (·.isFinite = true) := by
  obtain ⟨boxes, hsolved, -, rfl⟩ := exists_solved_of_diagram h
  cases hsolved
  obtain ⟨a, b, hplace, hright, hy, hx⟩ :=
    exists_place_probe solver ⟨whole 140, whole 60⟩ rfl
  obtain ⟨hnodes, hwidth⟩ := hd
  rw [compose] at hnodes hwidth
  simp only [solve_probe, bands_probe, hplace] at hnodes hwidth
  -- the second pool stands below the first, at the distance between pools
  have hbelow := hnodes _ (List.mem_append_right _ (.head _))
  have hgap : config.poolGap.isFinite = true := (isFinite_add_iff.1 hbelow.y).2
  obtain ⟨hheader, hleast, hpadding, hmembers⟩ := Grid.isFinite_of_laneNodes hconfig fun n hn =>
    hnodes n (List.mem_append_left _ (.tail _ (List.mem_append_left _ hn)))
  have ha : a.y.isFinite = true := (hmembers (probeElement "a" "A") (.head _)).2
  have hb : b.x.isFinite = true := (hmembers (probeElement "b" "B") (.tail _ (.head _))).1
  obtain ⟨hrankSep, hrightmost⟩ := hx hb
  obtain ⟨hgridPadding, hminGridWidth⟩ := Grid.isFinite_of_width hconfig
    (List.forall_mem_cons.2 ⟨hright, List.forall_mem_singleton.2 hrightmost⟩) hwidth
  exact ⟨⟨hgridPadding, hminGridWidth, hheader, hgap, hleast, hpadding, hbelow.height⟩,
    ⟨hy ha, hrankSep⟩⟩

end Layout

/-! ### Accepted settings -/

namespace Extended

/-- Reads a number as a double, and takes it for what it is. -/
def read : Settings.Reader Extended := fun v => (Number.checkDouble v).map ofDouble

end Extended

namespace Settings

/-- **Finite layouts**: accepted settings give every text a finite diagram if and only if all their
constants are finite. -/
theorem generate_finite_iff {number : Reader Extended} {m : List (String × Value)}
    {s : Settings Extended} (h : check number m = .good s) :
    (∀ text, ∃ d, (s.layout Layout.layeredSolver).generate text = .ok d ∧ d.Finite) ↔ s.Finite := by
  constructor
  · intro hfinite
    obtain ⟨d, hd, hlengths⟩ := hfinite Layout.probe
    obtain ⟨hgrid, hlayered⟩ :=
      Layout.finite_of_probe (nonNegative_of_check ordered h) hd hlengths
    exact ⟨hgrid, hlayered⟩
  · rintro ⟨hgrid, hlayered⟩ text
    obtain ⟨boxes, hd⟩ := Layout.exists_diagram_of_places
      (Layout.layered_places s.grid s.layered (Notation.parse text))
    exact ⟨_, hd, Layout.all_of_generate closed_isFinite hgrid hlayered hd⟩

/-- Constants as text and as numbers. -/
def compact : List (String × Value) :=
  [("layout", .map [(.str "header_width", .float 0.5)]),
    ("solver", .map [(.str "node_sep", .str "6.25e1"), (.str "rank_sep", .int 80)])]

theorem generate_finite_compact :
    ∃ s, check Extended.read compact = .good s ∧ s.layered.nodeSep = finite (125 / 2) ∧
      ∀ text, ∃ d, (s.layout Layout.layeredSolver).generate text = .ok d ∧ d.Finite := by
  have hcheck : check Extended.read compact =
      .good ⟨{ (.standard : Grid.Config Extended) with headerWidth := finite (1 / 2) },
        ⟨finite (125 / 2), finite 80, 4⟩, .standard⟩ := by
    decide +kernel
  refine ⟨_, hcheck, rfl, (generate_finite_iff hcheck).2 ⟨?_, ⟨rfl, rfl⟩⟩⟩
  exact ⟨rfl, rfl, rfl, rfl, rfl, rfl, rfl⟩

/-- An infinite distance between nodes. -/
def endless : List (String × Value) := [("solver", .map [(.str "node_sep", .str "inf")])]

/-- A lane with a single element. -/
def lonely : String := "pool: P\nlane: P > L\ntask: t [L] T"

/-- Infinity is accepted, and the element then stands nowhere: the distance is not taken at all, and
so much of infinity is no number. -/
theorem generate_endless :
    ∃ s d, check Extended.read endless = .good s ∧
      (s.layout Layout.layeredSolver).generate lonely = .ok d ∧
      d.nodes.map (·.position.y) = [finite 0, finite 0, undefined] ∧ ¬ d.Finite := by
  have hcheck : check Extended.read endless =
      .good ⟨.standard, ⟨infinite false, finite 60, 4⟩, .standard⟩ := by
    decide +kernel
  have hplaces : ((Layout.layered .standard ⟨infinite false, finite 60, 4⟩).generate lonely).map
      (·.nodes.map (·.position.y)) = .ok [finite 0, finite 0, undefined] := by
    decide +kernel
  obtain ⟨boxes, hd⟩ := Layout.exists_diagram_of_places
    (Layout.layered_places .standard ⟨infinite false, finite 60, 4⟩ (Notation.parse lonely))
  generalize Layout.compose _ _ boxes = d at hd
  rw [Layout.generate, hd] at hplaces
  have hy : d.nodes.map (·.position.y) = [finite 0, finite 0, undefined] :=
    Except.ok.inj hplaces
  refine ⟨_, d, hcheck, hd, hy, fun hfinite => ?_⟩
  have hmem : undefined ∈ d.nodes.map (·.position.y) := by
    rw [hy]
    decide
  obtain ⟨n, hn, hundefined⟩ := List.mem_map.1 hmem
  have hlength := (hfinite.nodes n hn).y
  rw [hundefined] at hlength
  cases hlength

end Settings

end Swimlane
