import Mathlib.Data.List.Forall2
import Swimlane.Proofs.Containment
import Swimlane.Proofs.Layout

/-!
# Captions

Labels, variants, markers and the kinds of connections are captions: they tell how a part of a
process is shown, and not where. Every stage from a document to its diagram commutes with erasing
them, so documents that differ in their captions only are laid out alike.

- `Document.uncaptioned`, `Diagram.uncaptioned`: documents and diagrams without captions.
- `Document.uniqueElements_uncaptioned`, `Document.edges_flowGraph_uncaptioned`,
  `Document.membersOf_uncaptioned`: captions decide neither which elements there are, nor what the
  solver is given, nor what a band holds.
- `Band.ofPools_uncaptioned`, `Grid.nodesFrom_uncaptioned`, `Document.edgesFrom_uncaptioned`: bands,
  nodes and edges, stage by stage.
- `Layout.diagram_uncaptioned`: the whole of it.
- `Document.AlikeButCaptions`, `Diagram.Alike`: what two documents and two diagrams have in common.
- `Layout.diagram_alike`: captions never move anything.
-/

namespace Swimlane

/-! ### Without captions -/

/-- An element without its captions. -/
def Element.uncaptioned (e : Element) : Element :=
  { e with label := "", variant := none, markers := [] }

/-- A connection without its captions: its two ends. -/
def Connection.uncaptioned (c : Connection) : Connection :=
  ⟨c.source, c.target, none, .sequence⟩

/-- A document without captions. Names of pools and lanes are none. -/
def Document.uncaptioned (d : Document) : Document where
  pools := d.pools
  lanes := d.lanes
  elements := d.elements.map Element.uncaptioned
  connections := d.connections.map Connection.uncaptioned

/-- A node without its captions. -/
def Node.uncaptioned {α : Type} (n : Node α) : Node α :=
  { n with label := "", variant := none, markers := [], icon := none }

/-- An edge without its captions: its number and its two ends. -/
def Edge.uncaptioned (e : Edge) : Edge := ⟨e.number, e.connection.uncaptioned, none⟩

/-- A diagram without captions. -/
def Diagram.uncaptioned {α : Type} (d : Diagram α) : Diagram α :=
  ⟨d.nodes.map Node.uncaptioned, d.edges.map Edge.uncaptioned, d.gridWidth⟩

/-! ### Elements and the solver's graph -/

namespace Document

theorem uniqueElements_uncaptioned (d : Document) :
    d.uncaptioned.uniqueElements = d.uniqueElements.map Element.uncaptioned :=
  distinctBy_map (fun _ _ => Iff.rfl) d.elements

theorem element?_uncaptioned (d : Document) (id : String) :
    d.uncaptioned.element? id = (d.element? id).map Element.uncaptioned :=
  List.find?_map

theorem joins_uncaptioned (d : Document) (c : Connection) :
    d.uncaptioned.joins c.uncaptioned = d.joins c := by
  simp only [joins, element?_uncaptioned, Option.isSome_map]
  rfl

theorem reservedSizes_uncaptioned (d : Document) :
    d.uncaptioned.reservedSizes = d.reservedSizes := by
  rw [reservedSizes, uniqueElements_uncaptioned, List.map_map, reservedSizes]
  rfl

theorem edges_flowGraph_uncaptioned (d : Document) :
    d.uncaptioned.flowGraph.edges = d.flowGraph.edges := by
  have hconnections : d.uncaptioned.connections = d.connections.map Connection.uncaptioned := rfl
  simp only [flowGraph, reservedSizes_uncaptioned, hconnections, List.filter_map, List.map_map]
  rfl

theorem membersOf_uncaptioned (d : Document) (b : Bucket) :
    d.uncaptioned.membersOf b = (d.membersOf b).map Element.uncaptioned := by
  rw [membersOf_eq_filter, membersOf_eq_filter, uniqueElements_uncaptioned, List.filter_map]
  -- a bucket is told by the home, the pools and the lanes
  rfl

end Document

/-! ### Bands -/

namespace Band

/-- The band of a lane without the captions of its elements. -/
def Lane.uncaptioned (b : Lane) : Lane := { b with members := b.members.map Element.uncaptioned }

/-- What a pool holds, without captions. -/
def Content.uncaptioned : Content → Content
  | .lanes bands => .lanes (bands.map Lane.uncaptioned)
  | .row members => .row (members.map Element.uncaptioned)

/-- The band of a pool without captions. -/
def Pool.uncaptioned (b : Pool) : Pool := { b with content := b.content.uncaptioned }

section

variable {members members' : Bucket → List Element}

theorem Claims.membersFor_uncaptioned
    (h : ∀ b, members' b = (members b).map Element.uncaptioned) (c : Claims) (b : Bucket) :
    c.membersFor members' b = (c.membersFor members b).map Element.uncaptioned := by
  unfold membersFor
  split
  · rfl
  · exact h b

theorem ofLanes_uncaptioned (h : ∀ b, members' b = (members b).map Element.uncaptioned)
    (c : Claims) (lanes : List Swimlane.Lane) :
    (ofLanes members' c lanes).1 = (ofLanes members c lanes).1.map Lane.uncaptioned ∧
      (ofLanes members' c lanes).2 = (ofLanes members c lanes).2 := by
  induction lanes generalizing c with
  | nil => exact ⟨rfl, rfl⟩
  | cons l rest ih =>
    -- what is taken after a lane does not depend on what the lane holds
    obtain ⟨hbands, hclaims⟩ := ih (ofLane members c l).2
    refine ⟨?_, hclaims⟩
    have hband : (ofLane members' c l).1 = (ofLane members c l).1.uncaptioned := by
      simp only [ofLane, Claims.membersFor_uncaptioned h, Lane.uncaptioned]
    exact congrArg₂ List.cons hband hbands

theorem ofPool_uncaptioned (h : ∀ b, members' b = (members b).map Element.uncaptioned)
    (c : Claims) (name : String) (lanes : List Swimlane.Lane) :
    (ofPool members' c name lanes).1 = (ofPool members c name lanes).1.uncaptioned ∧
      (ofPool members' c name lanes).2 = (ofPool members c name lanes).2 := by
  cases lanes with
  | nil =>
    refine ⟨?_, rfl⟩
    simp only [ofPool, Claims.membersFor_uncaptioned h, Pool.uncaptioned, Content.uncaptioned]
  | cons l rest =>
    obtain ⟨hbands, hclaims⟩ :=
      ofLanes_uncaptioned h (c.addId (Bucket.poolBandId name)) (l :: rest)
    refine ⟨?_, hclaims⟩
    simp only [ofPool, hbands, Pool.uncaptioned, Content.uncaptioned]

theorem ofPools_uncaptioned (h : ∀ b, members' b = (members b).map Element.uncaptioned)
    (d : Document) (earlier : List String) (c : Claims) (names : List String) :
    ofPools d members' earlier c names =
      (ofPools d members earlier c names).map Pool.uncaptioned := by
  induction names generalizing earlier c with
  | nil => rfl
  | cons name rest ih =>
    obtain ⟨hband, hclaims⟩ :=
      ofPool_uncaptioned h c name (if name ∈ earlier then [] else d.lanesOf name)
    simp only [ofPools, hband, hclaims, ih, List.map_cons]

end

end Band

theorem Document.bands_uncaptioned (d : Document) :
    d.uncaptioned.bands = d.bands.map Band.Pool.uncaptioned := by
  have hlanes : d.uncaptioned.lanes = d.lanes := rfl
  have hpools : Band.ofPools d.uncaptioned d.uncaptioned.membersOf [] .none d.bandPools =
      (Band.ofPools d d.membersOf [] .none d.bandPools).map Band.Pool.uncaptioned := by
    rw [Band.ofPools_congr hlanes, Band.ofPools_uncaptioned d.membersOf_uncaptioned]
  have hnames : d.uncaptioned.bandPools = d.bandPools := rfl
  rw [bands, hnames, hpools, bands, List.map_append, membersOf_uncaptioned]
  by_cases hempty : d.membersOf .unassigned = []
  · simp [hempty]
  · simp [hempty, Band.Pool.uncaptioned, Band.Content.uncaptioned]

/-! ### Nodes -/

namespace Grid

variable {α : Type} [Scalar α]

section

variable (config : Config α) (box : String → Box α)

omit [Scalar α] in
theorem places_uncaptioned (members : List Element) :
    places box (members.map Element.uncaptioned) = places box members := by
  rw [places, List.map_map, places]
  rfl

theorem laneHeight_uncaptioned (band : Band.Lane) :
    laneHeight config box band.uncaptioned = laneHeight config box band := by
  simp only [laneHeight, Band.Lane.uncaptioned, places_uncaptioned]

theorem poolHeight_uncaptioned (content : Band.Content) :
    poolHeight config box content.uncaptioned = poolHeight config box content := by
  cases content with
  | lanes bands =>
    simp only [Band.Content.uncaptioned, poolHeight, List.map_map, Function.comp_def,
      laneHeight_uncaptioned]
  | row members => rfl

theorem laneNodes_uncaptioned (gridWidth : α) (parent : String) (top : α) (band : Band.Lane) :
    (laneNodes config box gridWidth parent top band.uncaptioned).map Node.uncaptioned =
      (laneNodes config box gridWidth parent top band).map Node.uncaptioned := by
  have hmembers : band.uncaptioned.members = band.members.map Element.uncaptioned := rfl
  simp only [laneNodes, laneHeight_uncaptioned, hmembers, places_uncaptioned, List.map_cons,
    List.map_map]
  -- the nodes of the members have the same places and shapes, and no captions on either side
  rfl

theorem lanesNodes_uncaptioned (gridWidth : α) (parent : String) (top : α)
    (bands : List Band.Lane) :
    (lanesNodes config box gridWidth parent top (bands.map Band.Lane.uncaptioned)).map
        Node.uncaptioned =
      (lanesNodes config box gridWidth parent top bands).map Node.uncaptioned := by
  induction bands generalizing top with
  | nil => rfl
  | cons band rest ih =>
    simp only [List.map_cons, lanesNodes, List.map_append, laneNodes_uncaptioned,
      laneHeight_uncaptioned, ih]

theorem contentNodes_uncaptioned (gridWidth : α) (parent : String) (content : Band.Content) :
    (contentNodes config box gridWidth parent content.uncaptioned).map Node.uncaptioned =
      (contentNodes config box gridWidth parent content).map Node.uncaptioned := by
  cases content with
  | lanes bands => exact lanesNodes_uncaptioned config box gridWidth parent _ bands
  | row members =>
    simp only [Band.Content.uncaptioned, contentNodes, rowNodes, List.map_map]
    rfl

theorem nodesFrom_uncaptioned (gridWidth top : α) (bands : List Band.Pool) :
    (nodesFrom config box gridWidth top (bands.map Band.Pool.uncaptioned)).map Node.uncaptioned =
      (nodesFrom config box gridWidth top bands).map Node.uncaptioned := by
  induction bands generalizing top with
  | nil => rfl
  | cons band rest ih =>
    simp only [List.map_cons, nodesFrom, poolNodes, Band.Pool.uncaptioned, List.map_append,
      poolHeight_uncaptioned, contentNodes_uncaptioned, ih]

end

end Grid

/-! ### Edges -/

/-- The elements that the ends of a connection stand for decide whether it is drawn; its captions
decide how. -/
theorem Document.edgesFrom_uncaptioned (d : Document) (first : Nat) (cs : List Connection) :
    (d.uncaptioned.edgesFrom first (cs.map Connection.uncaptioned)).map Edge.uncaptioned =
      (d.edgesFrom first cs).map Edge.uncaptioned := by
  induction cs generalizing first with
  | nil => rfl
  | cons c rest ih =>
    rw [List.map_cons, edgesFrom, edgesFrom, joins_uncaptioned]
    by_cases hjoins : d.joins c = true
    · rw [if_pos hjoins, if_pos hjoins, List.map_cons, List.map_cons, ih]
      -- the side on which an edge leaves is a caption as well
      rfl
    · rw [if_neg hjoins, if_neg hjoins, ih]

/-! ### Diagrams -/

namespace Layout

variable {α : Type} [Scalar α]

theorem compose_uncaptioned (l : Layout α) (d : Document) (boxes : List (String × Box α)) :
    (l.compose d.uncaptioned boxes).uncaptioned = (l.compose d boxes).uncaptioned := by
  have hedges : d.uncaptioned.edges.map Edge.uncaptioned = d.edges.map Edge.uncaptioned :=
    d.edgesFrom_uncaptioned 0 d.connections
  simp only [compose, Diagram.uncaptioned, Grid.nodes, Document.bands_uncaptioned,
    Grid.nodesFrom_uncaptioned, hedges]

/-- Without captions, a document has the same diagram without captions, or fails alike. -/
theorem diagram_uncaptioned (l : Layout α) (d : Document) :
    (l.diagram d.uncaptioned).map Diagram.uncaptioned = (l.diagram d).map Diagram.uncaptioned :=
  map_diagram_congr Diagram.uncaptioned d.reservedSizes_uncaptioned d.edges_flowGraph_uncaptioned
    (l.compose_uncaptioned d)

end Layout

/-- Two documents that differ in their captions only: they have the same pools and lanes, and agree
place by place on the identifiers, homes and kinds of their elements and on the ends of their
connections. -/
structure Document.AlikeButCaptions (d d' : Document) : Prop where
  pools : d.pools = d'.pools
  lanes : d.lanes = d'.lanes
  elements : List.Forall₂ (fun e e' => e.id = e'.id ∧ e.home = e'.home ∧ e.kind = e'.kind)
    d.elements d'.elements
  connections : List.Forall₂ (fun c c' => c.source = c'.source ∧ c.target = c'.target)
    d.connections d'.connections

/-- Two diagrams of one width that agree place by place on the identifiers, kinds, parents,
positions and sizes of their nodes and on the identifiers and ends of their edges. -/
structure Diagram.Alike {α : Type} (a b : Diagram α) : Prop where
  gridWidth : a.gridWidth = b.gridWidth
  nodes : List.Forall₂ (fun m n => m.id = n.id ∧ m.kind = n.kind ∧ m.parent = n.parent ∧
    m.position = n.position ∧ m.extent = n.extent) a.nodes b.nodes
  edges : List.Forall₂ (fun e f => e.id = f.id ∧ e.connection.source = f.connection.source ∧
    e.connection.target = f.connection.target) a.edges b.edges

/-- Two lists have the same image if and only if their items have, place by place. -/
theorem map_eq_map_iff_forall₂ {α β : Type} {f : α → β} {as bs : List α} :
    as.map f = bs.map f ↔ List.Forall₂ (fun a b => f a = f b) as bs := by
  rw [← List.forall₂_eq_eq_eq, List.forall₂_map_left_iff, List.forall₂_map_right_iff]

/-- Documents that differ in their captions only are the same without them. -/
theorem Document.AlikeButCaptions.uncaptioned_eq {d d' : Document} (h : d.AlikeButCaptions d') :
    d.uncaptioned = d'.uncaptioned := by
  have helements : d.elements.map Element.uncaptioned = d'.elements.map Element.uncaptioned := by
    refine map_eq_map_iff_forall₂.2 (h.elements.imp ?_)
    rintro e e' ⟨hid, hhome, hkind⟩
    simp only [Element.uncaptioned, hid, hhome, hkind]
  have hconnections :
      d.connections.map Connection.uncaptioned = d'.connections.map Connection.uncaptioned := by
    refine map_eq_map_iff_forall₂.2 (h.connections.imp ?_)
    rintro c c' ⟨hsource, htarget⟩
    simp only [Connection.uncaptioned, hsource, htarget]
  simp only [Document.uncaptioned, h.pools, h.lanes, helements, hconnections]

/-- Diagrams that are the same without their captions are alike. -/
theorem Diagram.Alike.of_uncaptioned_eq {α : Type} {a b : Diagram α}
    (h : a.uncaptioned = b.uncaptioned) : a.Alike b := by
  obtain ⟨hnodes, hedges, hwidth⟩ := Diagram.mk.inj h
  refine ⟨hwidth, (map_eq_map_iff_forall₂.1 hnodes).imp ?nodes,
    (map_eq_map_iff_forall₂.1 hedges).imp ?edges⟩
  case nodes =>
    intro m n hmn
    simp only [Node.uncaptioned, Node.mk.injEq] at hmn
    obtain ⟨hid, hkind, -, hposition, hextent, hparent, -⟩ := hmn
    exact ⟨hid, hkind, hparent, hposition, hextent⟩
  case edges =>
    intro e f hef
    simp only [Edge.uncaptioned, Connection.uncaptioned, Edge.mk.injEq, Connection.mk.injEq] at hef
    obtain ⟨hnumber, ⟨hsource, htarget, -⟩, -⟩ := hef
    exact ⟨by rw [Edge.id, Edge.id, hnumber], hsource, htarget⟩

namespace Layout

variable {α : Type} [Scalar α]

/-- **Captions never move anything**: the layouts of two documents that differ in their captions
only fail with the same error, or give diagrams that are alike. -/
theorem diagram_alike (l : Layout α) {d d' : Document} (h : d.AlikeButCaptions d') :
    (∃ e, l.diagram d = .error e ∧ l.diagram d' = .error e) ∨
      ∃ a b, l.diagram d = .ok a ∧ l.diagram d' = .ok b ∧ a.Alike b := by
  have hmap : (l.diagram d).map Diagram.uncaptioned = (l.diagram d').map Diagram.uncaptioned := by
    rw [← l.diagram_uncaptioned d, h.uncaptioned_eq, l.diagram_uncaptioned d']
  cases hd : l.diagram d with
  | error e =>
    cases hd' : l.diagram d' with
    | error e' =>
      rw [hd, hd'] at hmap
      exact .inl ⟨e, rfl, congrArg Except.error (Except.error.inj hmap).symm⟩
    | ok b =>
      rw [hd, hd'] at hmap
      cases hmap
  | ok a =>
    cases hd' : l.diagram d' with
    | error e' =>
      rw [hd, hd'] at hmap
      cases hmap
    | ok b =>
      rw [hd, hd'] at hmap
      exact .inr ⟨a, b, rfl, rfl, .of_uncaptioned_eq (Except.ok.inj hmap)⟩

/-- A question with a negative answer and a message. -/
def asked : Document where
  pools := [⟨"Shop"⟩, ⟨"Bank"⟩]
  lanes := [⟨"Shop", "Desk"⟩]
  elements := [⟨"ask", "Desk", "Paid?", .decision, some "xor", []⟩,
    ⟨"pay", "Bank", "Pay", .activity, some "user", ["loop"]⟩,
    ⟨"end", "Elsewhere", "", .event, none, []⟩]
  connections := [⟨"ask", "pay", some "no", .message⟩, ⟨"ask", "end", some "yes", .sequence⟩]

/-- The same without a word. -/
def silent : Document where
  pools := [⟨"Shop"⟩, ⟨"Bank"⟩]
  lanes := [⟨"Shop", "Desk"⟩]
  elements := [⟨"ask", "Desk", "", .decision, none, []⟩, ⟨"pay", "Bank", "", .activity, none, []⟩,
    ⟨"end", "Elsewhere", "", .event, some "timer", []⟩]
  connections := [⟨"ask", "pay", none, .association⟩, ⟨"ask", "end", some "no", .sequence⟩]

theorem diagram_alike_silent :
    asked.AlikeButCaptions silent ∧
      ((∃ e, (standard : Layout Rat).diagram asked = .error e ∧
          (standard : Layout Rat).diagram silent = .error e) ∨
        ∃ a b, (standard : Layout Rat).diagram asked = .ok a ∧
          (standard : Layout Rat).diagram silent = .ok b ∧ a.Alike b) := by
  have hlike : asked.AlikeButCaptions silent :=
    { pools := rfl
      lanes := rfl
      elements := .cons ⟨rfl, rfl, rfl⟩ (.cons ⟨rfl, rfl, rfl⟩ (.cons ⟨rfl, rfl, rfl⟩ .nil))
      connections := .cons ⟨rfl, rfl⟩ (.cons ⟨rfl, rfl⟩ .nil) }
  exact ⟨hlike, diagram_alike standard hlike⟩

end Layout

end Swimlane
