import Swimlane.Proofs.Layout

/-!
# Lengths that arithmetic does not lead out of

A predicate that holds of whole numbers and is kept by sums, differences, multiples and halves holds
of every length of a diagram if it holds of the constants of its layout. Nothing else enters a
diagram: comparisons choose among lengths that are already there.

- `Scalar.Closed`: the predicate is kept by arithmetic.
- `Box.All`, `Node.All`, `Diagram.All`: every length satisfies a predicate.
- `Layered.all_solve`: the places of a solved graph.
- `Grid.all_nodes`: the nodes of all bands.
- `Layout.all_of_generate`: the diagram of a text.
-/

namespace Swimlane

open Scalar

/-! ### Predicates on lengths -/

section

variable {α : Type} [Scalar α] (P : α → Prop)

/-- Arithmetic does not lead out of the lengths that satisfy a predicate. -/
structure Scalar.Closed : Prop where
  whole : ∀ n, P (whole n)
  add : ∀ {a b}, P a → P b → P (a + b)
  sub : ∀ {a b}, P a → P b → P (a - b)
  times : ∀ {a} n, P a → P (times a n)
  half : ∀ {a}, P a → P (half a)

/-- The place and the size of a box satisfy a predicate. -/
structure Box.All (b : Box α) : Prop where
  x : P b.x
  y : P b.y
  width : P b.width
  height : P b.height

/-- The distances of a layered placement satisfy a predicate. -/
structure Layered.Config.All (config : Layered.Config α) : Prop where
  nodeSep : P config.nodeSep
  rankSep : P config.rankSep

/-- The constants of a grid satisfy a predicate. -/
structure Grid.Config.All (config : Grid.Config α) : Prop where
  gridPadding : P config.gridPadding
  minGridWidth : P config.minGridWidth
  headerWidth : P config.headerWidth
  poolGap : P config.poolGap
  laneMinHeight : P config.laneMinHeight
  lanePadding : P config.lanePadding
  rowHeight : P config.rowHeight

/-- The place and the size of a node satisfy a predicate. -/
structure Node.All (n : Node α) : Prop where
  x : P n.position.x
  y : P n.position.y
  width : P n.extent.width
  height : P n.extent.height

/-- Every length of a diagram satisfies a predicate. -/
structure Diagram.All (d : Diagram α) : Prop where
  nodes : ∀ n ∈ d.nodes, n.All P
  gridWidth : P d.gridWidth

end

variable {α : Type} [Scalar α] {P : α → Prop}

namespace Scalar.Closed

omit [Scalar α] in
/-- A fold that chooses one of two does not lead out of a predicate either. -/
theorem foldl {f : α → α → α} (hf : ∀ {a b}, P a → P b → P (f a b)) {a : α} (ha : P a)
    {items : List α} (hitems : ∀ b ∈ items, P b) : P (items.foldl f a) := by
  induction items generalizing a with
  | nil => exact ha
  | cons b rest ih => exact ih (hf ha (hitems b (.head _))) fun c hc => hitems c (.tail _ hc)

theorem larger {a b : α} (ha : P a) (hb : P b) : P (larger a b) := by
  unfold Scalar.larger
  by_cases h : below a b = true
  · rwa [if_pos h]
  · rwa [if_neg h]

theorem smaller {a b : α} (ha : P a) (hb : P b) : P (smaller a b) := by
  unfold Scalar.smaller
  by_cases h : below b a = true
  · rwa [if_pos h]
  · rwa [if_neg h]

variable (hP : Closed P) {items : List α} (hitems : ∀ a ∈ items, P a)

include hP hitems

theorem largest : P (largest (Scalar.whole 0) items) := by
  cases items with
  | nil => exact hP.whole 0
  | cons a rest => exact foldl larger (hitems a (.head _)) fun b hb => hitems b (.tail _ hb)

theorem smallest : P (smallest (Scalar.whole 0) items) := by
  cases items with
  | nil => exact hP.whole 0
  | cons a rest => exact foldl smaller (hitems a (.head _)) fun b hb => hitems b (.tail _ hb)

theorem total : P (total items) := foldl hP.add (hP.whole 0) hitems

end Scalar.Closed

/-! ### Placed columns -/

namespace Layered

variable {V : Type} {config : Config α} (hP : Closed P) (hconfig : config.All P)

include hP

theorem all_columnWidth {column : Column V α} (hcolumn : ∀ n ∈ column, P n.2.width) :
    P (columnWidth column) :=
  hP.largest fun w hw => by
    obtain ⟨n, hn, rfl⟩ := List.mem_map.1 hw
    exact hcolumn n hn

include hconfig

theorem all_columnHeight {column : Column V α} (hcolumn : ∀ n ∈ column, P n.2.height) :
    P (columnHeight config.nodeSep column) := by
  refine hP.add (hP.total fun h hh => ?_) (hP.times _ hconfig.nodeSep)
  obtain ⟨n, hn, rfl⟩ := List.mem_map.1 hh
  exact hcolumn n hn

/-- Stacking goes down by heights and distances. -/
theorem all_stack {column : Column V α} (hcolumn : ∀ n ∈ column, P n.2.width ∧ P n.2.height)
    {centre top : α} (hcentre : P centre) (htop : P top) :
    ∀ n ∈ stack config.nodeSep centre top column, n.2.All P := by
  induction column generalizing top with
  | nil => exact fun _ hn => nomatch hn
  | cons n rest ih =>
    obtain ⟨hwidth, hheight⟩ := hcolumn n (.head _)
    intro m hm
    rcases List.mem_cons.1 hm with rfl | hm
    · exact ⟨hcentre, hP.add htop (hP.half hheight), hwidth, hheight⟩
    · have hnext := hP.add htop (hP.add hheight hconfig.nodeSep)
      exact ih (fun k hk => hcolumn k (.tail _ hk)) hnext m hm

/-- Columns go on to the right by widths and distances. -/
theorem all_placeFrom {columns : List (Column V α)}
    (hcolumns : ∀ column ∈ columns, ∀ n ∈ column, P n.2.width ∧ P n.2.height) {tallest left : α}
    (htallest : P tallest) (hleft : P left) :
    ∀ n ∈ placeFrom config tallest left columns, n.2.All P := by
  induction columns generalizing left with
  | nil => exact fun _ hn => nomatch hn
  | cons column rest ih =>
    have hcolumn := hcolumns column (.head _)
    have hwidth := all_columnWidth hP fun n hn => (hcolumn n hn).1
    have hheight := all_columnHeight hP hconfig fun n hn => (hcolumn n hn).2
    intro n hn
    rcases List.mem_append.1 hn with hn | hn
    · have hcentre := hP.add hleft (hP.half hwidth)
      exact all_stack hP hconfig hcolumn hcentre (hP.half (hP.sub htallest hheight)) n hn
    · have hnext := hP.add hleft (hP.add hwidth hconfig.rankSep)
      exact ih (fun c hc => hcolumns c (.tail _ hc)) hnext n hn

variable [DecidableEq V]

/-- Every place that a graph is given is made of the sizes of its nodes and of the distances. -/
theorem all_solve {g : FlowGraph V α} (hsizes : ∀ n ∈ g.nodes, P n.2.width ∧ P n.2.height) :
    ∀ n ∈ solve config g, n.2.All P := by
  have hsized : ∀ columns : List (List V), ∀ column ∈ columns.map (sized g), ∀ n ∈ column,
      P n.2.width ∧ P n.2.height := by
    intro columns column hcolumn n hn
    obtain ⟨ids, -, rfl⟩ := List.mem_map.1 hcolumn
    obtain ⟨v, -, rfl⟩ := List.mem_map.1 hn
    cases hv : g.nodes.lookup v with
    | none => exact ⟨hP.whole 0, hP.whole 0⟩
    | some size => exact hsizes _ (Table.mem_of_lookup_eq_some hv)
  refine all_placeFrom hP hconfig (hsized _) (hP.largest fun h hh => ?_) (hP.whole 0)
  obtain ⟨column, hcolumn, rfl⟩ := List.mem_map.1 hh
  exact all_columnHeight hP hconfig fun n hn => (hsized _ column hcolumn n hn).2

end Layered

/-! ### The grid -/

namespace Grid

variable {config : Config α} {box : String → Box α} {gridWidth : α}

omit [Scalar α] in
theorem all_places (hbox : ∀ id, (box id).All P) (members : List Element) :
    ∀ y ∈ places box members, P y := by
  intro y hy
  obtain ⟨e, -, rfl⟩ := List.mem_map.1 hy
  exact (hbox e.id).y

theorem all_anchorOffset (hP : Closed P) (kind : ElementKind) : P (anchorOffset kind) :=
  hP.half (hP.whole _)

variable (hP : Closed P) (hconfig : config.All P)

include hP hconfig

/-- The width of a grid is made of the right sides of its boxes. -/
theorem all_width {boxes : List (String × Box α)} (hboxes : ∀ b ∈ boxes, b.2.All P) :
    P (width config boxes) := by
  refine Closed.larger (hP.add (hP.largest fun r hr => ?_) hconfig.gridPadding)
    hconfig.minGridWidth
  obtain ⟨b, hb, rfl⟩ := List.mem_map.1 hr
  exact hP.add (hboxes b hb).x (hP.half (hboxes b hb).width)

variable (hbox : ∀ id, (box id).All P)

include hbox

theorem all_laneHeight (band : Band.Lane) : P (laneHeight config box band) := by
  have hys := all_places hbox band.members
  have hspan := hP.sub (hP.largest hys) (hP.smallest hys)
  exact Closed.larger hconfig.laneMinHeight (hP.add hspan hconfig.lanePadding)

theorem all_poolHeight (content : Band.Content) : P (poolHeight config box content) := by
  cases content with
  | row members => exact hconfig.rowHeight
  | lanes bands =>
    refine hP.total fun h hh => ?_
    obtain ⟨band, -, rfl⟩ := List.mem_map.1 hh
    exact all_laneHeight hP hconfig hbox band

variable (hwidth : P gridWidth)

include hwidth

theorem all_laneNodes {top : α} (htop : P top) (parent : String) (band : Band.Lane) :
    ∀ n ∈ laneNodes config box gridWidth parent top band, n.All P := by
  have hheight := all_laneHeight hP hconfig hbox band
  have hys := all_places hbox band.members
  have hcentre := hP.half (hP.add (hP.largest hys) (hP.smallest hys))
  intro n hn
  rcases List.mem_cons.1 hn with rfl | hn
  · exact ⟨hconfig.headerWidth, htop, hwidth, hheight⟩
  · obtain ⟨e, -, rfl⟩ := List.mem_map.1 hn
    have hy := hP.add (hP.half hheight) (hP.sub (hbox e.id).y hcentre)
    exact ⟨(hbox e.id).x, hP.sub hy (all_anchorOffset hP e.kind), hP.whole _, hP.whole _⟩

theorem all_lanesNodes {top : α} (htop : P top) (parent : String) (bands : List Band.Lane) :
    ∀ n ∈ lanesNodes config box gridWidth parent top bands, n.All P := by
  induction bands generalizing top with
  | nil => exact fun _ hn => nomatch hn
  | cons band rest ih =>
    intro n hn
    rcases List.mem_append.1 hn with hn | hn
    · exact all_laneNodes hP hconfig hbox hwidth htop parent band n hn
    · exact ih (hP.add htop (all_laneHeight hP hconfig hbox band)) n hn

omit hwidth in
theorem all_rowNodes (parent : String) (members : List Element) :
    ∀ n ∈ rowNodes config box parent members, n.All P := by
  intro n hn
  obtain ⟨e, -, rfl⟩ := List.mem_map.1 hn
  have hy := hP.sub (hP.half hconfig.rowHeight) (all_anchorOffset hP e.kind)
  exact ⟨hP.add hconfig.headerWidth (hbox e.id).x, hy, hP.whole _, hP.whole _⟩

theorem all_poolNodes {top : α} (htop : P top) (band : Band.Pool) :
    ∀ n ∈ poolNodes config box gridWidth top band, n.All P := by
  intro n hn
  rcases List.mem_cons.1 hn with rfl | hn
  · exact ⟨hP.whole 0, htop, hP.add hwidth hconfig.headerWidth,
      all_poolHeight hP hconfig hbox band.content⟩
  · obtain ⟨id, label, content⟩ := band
    cases content with
    | lanes bands => exact all_lanesNodes hP hconfig hbox hwidth (hP.whole 0) id bands n hn
    | row members => exact all_rowNodes hP hconfig hbox id members n hn

/-- Bands go down by heights and gaps. -/
theorem all_nodesFrom {top : α} (htop : P top) (bands : List Band.Pool) :
    ∀ n ∈ nodesFrom config box gridWidth top bands, n.All P := by
  induction bands generalizing top with
  | nil => exact fun _ hn => nomatch hn
  | cons band rest ih =>
    have hheight := all_poolHeight hP hconfig hbox band.content
    intro n hn
    rcases List.mem_append.1 hn with hn | hn
    · exact all_poolNodes hP hconfig hbox hwidth htop band n hn
    · exact ih (hP.add (hP.add htop hheight) hconfig.poolGap) n hn

/-- Every node is made of the constants and of the places that its element was given. -/
theorem all_nodes (bands : List Band.Pool) : ∀ n ∈ nodes config box gridWidth bands, n.All P :=
  all_nodesFrom hP hconfig hbox hwidth (hP.whole 0) bands

end Grid

/-! ### Diagrams -/

namespace Layout

theorem all_boxOf (hP : Closed P) {boxes : List (String × Box α)}
    (hboxes : ∀ b ∈ boxes, b.2.All P) (id : String) : (boxOf boxes id).All P := by
  rw [boxOf]
  cases h : boxes.lookup id with
  | none => exact ⟨hP.whole 0, hP.whole 0, hP.whole 0, hP.whole 0⟩
  | some b => exact hboxes _ (Table.mem_of_lookup_eq_some h)

/-- Arithmetic alone makes the lengths of a diagram from the constants of its layout. -/
theorem all_of_generate (hP : Closed P) {config : Grid.Config α} {solver : Layered.Config α}
    (hconfig : config.All P) (hsolver : solver.All P) {text : String} {d : Diagram α}
    (h : (layered config solver).generate text = .ok d) : d.All P := by
  obtain ⟨boxes, hsolved, -, rfl⟩ := exists_solved_of_diagram h
  cases hsolved
  have hboxes := Layered.all_solve hP hsolver (g := (Notation.parse text).flowGraph.map whole) (by
    intro n hn
    obtain ⟨m, -, rfl⟩ := List.mem_map.1 hn
    exact ⟨hP.whole _, hP.whole _⟩)
  have hwidth : P (Grid.width config _) := Grid.all_width hP hconfig hboxes
  exact ⟨Grid.all_nodes hP hconfig (all_boxOf hP hboxes) hwidth _, hwidth⟩

end Layout

end Swimlane
