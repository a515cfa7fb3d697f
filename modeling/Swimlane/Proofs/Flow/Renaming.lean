import Mathlib.Data.List.Nodup
import Mathlib.Logic.Embedding.Basic
import Swimlane.Flow.Layered
import Swimlane.Proofs.Flow.Breaking

/-!
# Names carry no geometry

Nodes are told apart by their names, and by nothing else that the names say: every stage of the
placement commutes with giving the nodes other names. Nor does a column look at them when it is
sorted. Its nodes may be compared by whole keys, which hold the mean, the own position and the name;
the names are never reached.

- `Digraph.rename`, `FlowGraph.rename`: graphs whose nodes have other names.
- `Digraph.closingEdge?_rename`, `Digraph.acyclic_rename`, `Digraph.columns_rename`,
  `Digraph.ordered_rename`: the search, the cuts, the ranks and the sweeps, stage by stage.
- `Digraph.SortKey`, `Digraph.sortColumnBy_eq`: a column that is sorted by whole keys.
- `Layered.solve_rename`: the whole placement.
-/

namespace Swimlane

variable {V W α : Type}

/-! ### Other names -/

/-- An edge between other names. -/
def renameEdge (f : V ↪ W) (e : V × V) : W × W := (f e.1, f e.2)

theorem renameEdge_injective (f : V ↪ W) : Function.Injective (renameEdge f) :=
  f.injective.prodMap f.injective

/-- A graph whose nodes have other names. -/
def Digraph.rename (f : V ↪ W) (g : Digraph V) : Digraph W where
  nodes := g.nodes.map f
  edges := g.edges.map (renameEdge f)
  nodup_nodes := g.nodup_nodes.map f.injective
  nodup_edges := g.nodup_edges.map (renameEdge_injective f)
  closed := by
    intro e he
    obtain ⟨d, hd, rfl⟩ := List.mem_map.1 he
    exact ⟨List.mem_map_of_mem (g.closed d hd).1, List.mem_map_of_mem (g.closed d hd).2⟩

/-- A graph whose nodes have other names, in their order and with their sizes. -/
def FlowGraph.rename (f : V ↪ W) (g : FlowGraph V α) : FlowGraph W α where
  nodes := g.nodes.map fun n => (f n.1, n.2)
  edges := g.edges.map (renameEdge f)
  nodup_ids := by
    have hids : (g.nodes.map fun n => (f n.1, n.2)).map (·.1) = (g.nodes.map (·.1)).map f := by
      rw [List.map_map, List.map_map]
      rfl
    rw [hids]
    exact g.nodup_ids.map f.injective

/-- Along renamed items, a fold takes the renamed course. -/
theorem foldl_rename {σ τ ι κ : Type} {φ : σ → τ} {f : ι → κ} {step : σ → ι → σ}
    {step' : τ → κ → τ} (h : ∀ s i, step' (φ s) (f i) = φ (step s i)) (items : List ι) (s : σ) :
    (items.map f).foldl step' (φ s) = φ (items.foldl step s) := by
  rw [List.foldl_map]
  exact List.foldl_hom φ h

/-! ### Sorting by whole keys -/

theorem merge_congr {β : Type} {le le' : β → β → Bool} (xs ys : List β)
    (h : ∀ x ∈ xs, ∀ y ∈ ys, le x y = le' x y) : xs.merge ys le = xs.merge ys le' := by
  fun_induction List.merge xs ys le with
  | case1 ys => rw [List.nil_merge]
  | case2 xs hxs => rw [List.merge_right]
  | case3 x xs y ys hle ih =>
    have hle' : le' x y = true := by rw [← h x (.head _) y (.head _), hle]
    rw [List.cons_merge_cons_pos _ _ _ hle', ih fun a ha b hb => h a (.tail _ ha) b hb]
  | case4 x xs y ys hle ih =>
    have hle' : ¬ le' x y = true := by rw [← h x (.head _) y (.head _)]; exact hle
    rw [List.cons_merge_cons_neg _ _ _ hle', ih fun a ha b hb => h a ha b (.tail _ hb)]

open List.MergeSort.Internal in
/-- A stable sort asks of two items only whether the earlier one may stay in front. -/
theorem mergeSort_congr {β : Type} {le le' : β → β → Bool} (l : List β)
    (h : l.Pairwise fun a b => le a b = le' a b) : l.mergeSort le = l.mergeSort le' := by
  fun_induction List.mergeSort l le with
  | case1 => rw [List.mergeSort_nil]
  | case2 a => rw [List.mergeSort_singleton]
  | case3 a b xs le halves _ _ ihleft ihright =>
    have happend : halves.1.1 ++ halves.2.1 = a :: b :: xs := splitInTwo_fst_append_splitInTwo_snd _
    rw [← happend, List.pairwise_append] at h
    obtain ⟨hleft, hright, hboth⟩ := h
    rw [ihleft hleft, ihright hright, List.mergeSort]
    refine merge_congr _ _ fun x hx y hy => hboth x (List.mem_mergeSort.1 hx) y ?_
    exact List.mem_mergeSort.1 hy

namespace Digraph

/-- All that a node of a column could be sorted by: the mean position of its neighbours, its own
position, and its name. -/
structure SortKey (V : Type) where
  mean : Mean
  own : Nat
  name : V

/-- Whether one key comes before another one: by the means, by the positions where these are the
same, and by the names only where these are the same as well. -/
def SortKey.isBefore (before : V → V → Bool) (a b : SortKey V) : Bool :=
  if a.mean.le b.mean && b.mean.le a.mean then
    if a.own = b.own then before a.name b.name else a.own < b.own
  else a.mean.le b.mean

theorem SortKey.isBefore_eq_of_own_lt (before : V → V → Bool) {a b : SortKey V}
    (h : a.own < b.own) : (!b.isBefore before a) = a.mean.le b.mean := by
  have htotal : a.mean.le b.mean = true ∨ b.mean.le a.mean = true := by
    rw [Mean.le, Mean.le, decide_eq_true_eq, decide_eq_true_eq]
    exact Nat.le_total ..
  unfold isBefore
  rw [if_neg (Nat.ne_of_gt h), decide_eq_false (Nat.lt_asymm h)]
  cases hab : a.mean.le b.mean <;> cases hba : b.mean.le a.mean <;> simp_all

variable [DecidableEq V]

/-- The whole keys of the nodes of a column. -/
def sortKeys (columns : List (List V)) (neighbours : V → List V) (column : List V) :
    List (SortKey V) :=
  column.zipIdx.map fun (v, i) => ⟨meanPosition columns (neighbours v) i, i, v⟩

/-- A column sorted by whole keys, in which names are compared in the given way. -/
def sortColumnBy (before : V → V → Bool) (columns : List (List V)) (neighbours : V → List V)
    (column : List V) : List V :=
  ((sortKeys columns neighbours column).mergeSort fun a b => !b.isBefore before a).map (·.name)

/-- However the names are compared, they decide nothing. -/
theorem sortColumnBy_eq (before : V → V → Bool) (columns : List (List V)) (neighbours : V → List V)
    (column : List V) :
    sortColumnBy before columns neighbours column = sortColumn columns neighbours column := by
  have hindices : (column.zipIdx.map (·.2)).Pairwise (· < ·) := by
    rw [List.zipIdx_map_snd]
    exact List.pairwise_lt_range'
  have hkeys : (sortKeys columns neighbours column).Pairwise fun a b =>
      (!b.isBefore before a) = a.mean.le b.mean := by
    rw [sortKeys, List.pairwise_map]
    exact (List.pairwise_map.1 hindices).imp fun hlt => SortKey.isBefore_eq_of_own_lt before hlt
  have hpairs : (sortKeys columns neighbours column).map (fun k => (k.mean, k.name)) =
      column.zipIdx.map fun p => (meanPosition columns (neighbours p.1) p.2, p.1) := by
    rw [sortKeys, List.map_map]
    rfl
  have hsort : ((sortKeys columns neighbours column).mergeSort fun a b => a.mean.le b.mean).map
      (fun k => (k.mean, k.name)) =
        ((sortKeys columns neighbours column).map fun k => (k.mean, k.name)).mergeSort
          fun a b => a.1.le b.1 :=
    List.map_mergeSort fun _ _ _ _ => rfl
  show _ = ((column.zipIdx.map fun p => (_, p.1)).mergeSort _).map (·.2)
  rw [← hpairs, ← hsort, List.map_map, sortColumnBy, mergeSort_congr _ hkeys]
  rfl

/-- A sweep that sorts the columns by whole keys. -/
def sweepBy (before : V → V → Bool) (g : Digraph V) (forwards : Bool) (columns : List (List V)) :
    List (List V) :=
  let sortAt (neighbours : V → List V) (columns : List (List V)) (i : Nat) :=
    columns.modify i (sortColumnBy before columns neighbours)
  if forwards then (List.range' 1 (columns.length - 1)).foldl (sortAt g.previous) columns
  else (List.range (columns.length - 1)).reverse.foldl (sortAt g.next) columns

/-- A number of sweeps that sort the columns by whole keys. -/
def orderedBy (before : V → V → Bool) (g : Digraph V) (sweeps : Nat) (columns : List (List V)) :
    List (List V) :=
  (List.range sweeps).foldl (fun columns s => g.sweepBy before (s % 2 = 0) columns) columns

theorem sweepBy_eq (before : V → V → Bool) (g : Digraph V) (forwards : Bool)
    (columns : List (List V)) : g.sweepBy before forwards columns = g.sweep forwards columns := by
  have hsort : sortColumnBy before = sortColumn (V := V) := by
    funext columns neighbours column
    exact sortColumnBy_eq before columns neighbours column
  simp only [sweepBy, hsort]
  rfl

theorem orderedBy_eq (before : V → V → Bool) (g : Digraph V) (sweeps : Nat)
    (columns : List (List V)) : g.orderedBy before sweeps columns = g.ordered sweeps columns := by
  simp only [orderedBy, sweepBy_eq]
  rfl

end Digraph

/-- The placement of a graph whose columns are sorted by whole keys. -/
def Layered.solveBy [Scalar α] [DecidableEq V] (before : V → V → Bool) (config : Config α)
    (g : FlowGraph V α) : List (V × Box α) :=
  let dag := g.digraph.acyclic
  place config ((dag.orderedBy before config.sweeps.toNat dag.columns).map (sized g))

theorem Layered.solveBy_eq [Scalar α] [DecidableEq V] (before : V → V → Bool) (config : Config α)
    (g : FlowGraph V α) : solveBy before config g = solve config g := by
  rw [solveBy, Digraph.orderedBy_eq, solve, orderedColumns]

/-! ### Stage by stage -/

variable [DecidableEq V] [DecidableEq W] (f : V ↪ W)

theorem FlowGraph.digraph_rename (g : FlowGraph V α) :
    (g.rename f).digraph = g.digraph.rename f := by
  have hids : (g.rename f).ids = g.ids.map f := by
    simp only [ids, rename, List.map_map, Function.comp_def]
  have hknown : ((g.rename f).edges.filter fun e =>
      e.1 ∈ (g.rename f).ids ∧ e.2 ∈ (g.rename f).ids) =
        (g.edges.filter fun e => e.1 ∈ g.ids ∧ e.2 ∈ g.ids).map (renameEdge f) := by
    have hedges : (g.rename f).edges = g.edges.map (renameEdge f) := rfl
    simp only [hids, hedges, List.filter_map, Function.comp_def, renameEdge,
      List.mem_map_of_injective f.injective]
  refine Digraph.eq_of_edges_eq hids ?_
  show distinctBy id _ = (distinctBy id _).map (renameEdge f)
  rw [hknown]
  refine distinctBy_map ?_ _
  exact fun _ _ => (renameEdge_injective f).eq_iff

namespace Digraph

variable (g : Digraph V)

theorem next_rename (v : V) : (g.rename f).next (f v) = (g.next v).map f := by
  simp only [next, rename, List.filter_map, List.map_map, Function.comp_def, renameEdge,
    f.injective.eq_iff]

theorem previous_rename (v : V) : (g.rename f).previous (f v) = (g.previous v).map f := by
  simp only [previous, rename, List.filter_map, List.map_map, Function.comp_def, renameEdge,
    f.injective.eq_iff]

omit [DecidableEq V] [DecidableEq W] in
theorem keep_rename {p : V × V → Bool} {p' : W × W → Bool}
    (h : ∀ e, p' (renameEdge f e) = p e) : (g.rename f).keep p' = (g.keep p).rename f := by
  simp only [keep, rename, List.filter_map, Function.comp_def, h]

theorem erase_rename (e : V × V) :
    (g.rename f).erase (renameEdge f e) = (g.erase e).rename f := by
  exact keep_rename f g fun d => decide_eq_decide.2 (renameEdge_injective f).ne_iff

theorem withoutLoops_rename : (g.rename f).withoutLoops = g.withoutLoops.rename f := by
  exact keep_rename f g fun d => decide_eq_decide.2 f.injective.ne_iff

/-! ### Breaking cycles -/

/-- What a search has come to, in other names. -/
def Search.rename : Search V → Search W
  | .closed e => .closed (renameEdge f e)
  | .clear seen => .clear (seen.map f)

theorem step_rename {visit : List V → List V → V → Search V}
    {visit' : List W → List W → W → Search W}
    (h : ∀ path seen v, visit' (path.map f) (seen.map f) (f v) = (visit path seen v).rename f)
    (v : V) (path : List V) (found : Search V) (w : V) :
    step visit' (f v) (path.map f) (found.rename f) (f w) =
      (step visit v path found w).rename f := by
  cases found with
  | closed e => rfl
  | clear seen =>
    simp only [step, Search.rename, List.mem_map_of_injective f.injective]
    by_cases hpath : w ∈ path
    · rw [if_pos hpath, if_pos hpath]
      rfl
    · rw [if_neg hpath, if_neg hpath]
      by_cases hseen : w ∈ seen
      · rw [if_pos hseen, if_pos hseen]
      · rw [if_neg hseen, if_neg hseen]
        exact h path seen w

theorem visit_rename (fuel : Nat) (path seen : List V) (v : V) :
    (g.rename f).visit fuel (path.map f) (seen.map f) (f v) =
      (g.visit fuel path seen v).rename f := by
  induction fuel generalizing path seen v with
  | zero => rfl
  | succ fuel ih =>
    rw [visit, next_rename]
    exact foldl_rename (step_rename f ih v (v :: path)) (g.next v) (.clear (v :: seen))

theorem stepRoot_rename (found : Search V) (v : V) :
    (g.rename f).stepRoot (found.rename f) (f v) = (g.stepRoot found v).rename f := by
  cases found with
  | closed e => rfl
  | clear seen =>
    have hlength : (g.rename f).nodes.length = g.nodes.length := List.length_map f
    simp only [stepRoot, Search.rename, List.mem_map_of_injective f.injective, hlength]
    by_cases hseen : v ∈ seen
    · rw [if_pos hseen, if_pos hseen]
    · rw [if_neg hseen, if_neg hseen]
      exact visit_rename f g _ [] seen v

/-- The search finds the same edge, whatever the nodes are called. -/
theorem closingEdge?_rename :
    (g.rename f).closingEdge? = g.closingEdge?.map (renameEdge f) := by
  have hfold : (g.rename f).nodes.foldl (g.rename f).stepRoot (.clear []) =
      (g.nodes.foldl g.stepRoot (.clear [])).rename f :=
    foldl_rename (stepRoot_rename f g) g.nodes (.clear [])
  rw [closingEdge?, hfold, closingEdge?]
  cases g.nodes.foldl g.stepRoot (.clear []) with
  | closed e => rfl
  | clear seen => rfl

theorem cutCycles_rename : (g.rename f).cutCycles = g.cutCycles.rename f := by
  induction g using cutCycles.induct with
  | case1 g h =>
    have h' : (g.rename f).closingEdge? = none := by rw [closingEdge?_rename, h]; rfl
    rw [cutCycles_of_none h, cutCycles_of_none h']
  | case2 g e h ih =>
    have h' : (g.rename f).closingEdge? = some (renameEdge f e) := by
      rw [closingEdge?_rename, h]
      rfl
    rw [cutCycles_of_some h, cutCycles_of_some h', erase_rename, ih]

theorem acyclic_rename : (g.rename f).acyclic = g.acyclic.rename f := by
  rw [acyclic, withoutLoops_rename, cutCycles_rename, acyclic]

/-! ### Ranks -/

/-- Nodes in a queue, in other names. -/
def Queue.rename (queue : Queue V) : Queue W := queue.map fun p => (f p.1, p.2.map f)

omit [DecidableEq V] [DecidableEq W] in
theorem ready_rename (queue : Queue V) : ready (queue.rename f) = (ready queue).map f := by
  simp only [ready, Queue.rename, List.filter_map, List.map_map, Function.comp_def,
    List.isEmpty_map]

theorem waiting_rename (gone : List V) (queue : Queue V) :
    waiting (gone.map f) (queue.rename f) = (waiting gone queue).rename f := by
  simp only [waiting, Queue.rename, List.filter_map, List.map_map, Function.comp_def,
    List.isEmpty_map, List.mem_map_of_injective f.injective]

theorem columnsOf_rename (queue : Queue V) :
    columnsOf (queue.rename f) = (columnsOf queue).map (List.map f) := by
  induction queue using columnsOf.induct with
  | case1 =>
    have hnil : columnsOf ([] : Queue W) = [] := by rw [columnsOf, if_pos rfl]
    have hnil' : columnsOf ([] : Queue V) = [] := by rw [columnsOf, if_pos rfl]
    exact hnil.trans (congrArg (List.map (List.map f)) hnil').symm
  | case2 queue hne hready =>
    have hne' : queue.rename f ≠ [] := by simpa [Queue.rename] using hne
    have hready' : ready (queue.rename f) = [] := by rw [ready_rename, hready]; rfl
    rw [columnsOf, if_neg hne', dif_pos hready', columnsOf, if_neg hne, dif_pos hready]
    simp [Queue.rename, Function.comp_def]
  | case3 queue hne hready ih =>
    have hne' : queue.rename f ≠ [] := by simpa [Queue.rename] using hne
    have hready' : ready (queue.rename f) ≠ [] := by simpa [ready_rename] using hready
    conv_lhs => rw [columnsOf, if_neg hne', dif_neg hready', ready_rename, waiting_rename, ih]
    conv_rhs => rw [columnsOf, if_neg hne, dif_neg hready]
    rfl

theorem columns_rename : (g.rename f).columns = g.columns.map (List.map f) := by
  have hqueue : (g.rename f).queue = g.queue.rename f := by
    simp only [queue, Queue.rename, List.map_map, Function.comp_def, rename]
    refine List.map_congr_left fun v _ => ?_
    have hprevious := previous_rename f g v
    simp only [rename] at hprevious
    rw [hprevious, List.filter_map]
    simp only [Function.comp_def, List.mem_map_of_injective f.injective]
  rw [columns, hqueue, columnsOf_rename, columns]

/-! ### Sweeps -/

theorem position_rename (columns : List (List V)) (v : V) :
    position (columns.map (List.map f)) (f v) = position columns v := by
  have hcolumn (column : List V) : (column.map f).idxOf? (f v) = column.idxOf? v := by
    simp only [List.idxOf?, List.findIdx?_map, Function.comp_def, f.injective.beq_eq]
  simp only [position, List.findSome?_map, Function.comp_def, hcolumn]

theorem meanPosition_rename (columns : List (List V)) (vs : List V) (own : Nat) :
    meanPosition (columns.map (List.map f)) (vs.map f) own = meanPosition columns vs own := by
  simp only [meanPosition, List.map_eq_nil_iff, List.map_map, Function.comp_def, position_rename,
    List.length_map]

section

variable {f} {neighbours : V → List V} {neighbours' : W → List W}
  (h : ∀ v, neighbours' (f v) = (neighbours v).map f)

include h

theorem sortColumn_rename (columns : List (List V)) (column : List V) :
    sortColumn (columns.map (List.map f)) neighbours' (column.map f) =
      (sortColumn columns neighbours column).map f := by
  let keyed := column.zipIdx.map fun p => (meanPosition columns (neighbours p.1) p.2, p.1)
  have hkeyed : ((column.map f).zipIdx.map fun p =>
      (meanPosition (columns.map (List.map f)) (neighbours' p.1) p.2, p.1)) =
        keyed.map fun a => (a.1, f a.2) := by
    simp only [keyed, List.zipIdx_map, List.map_map, Function.comp_def, Prod.map, h, id_eq,
      meanPosition_rename]
  have hsorted : (keyed.mergeSort fun a b => a.1.le b.1).map (fun a => (a.1, f a.2)) =
      (keyed.map fun a => (a.1, f a.2)).mergeSort fun a b => a.1.le b.1 :=
    List.map_mergeSort fun _ _ _ _ => rfl
  show (((column.map f).zipIdx.map fun p => (_, p.1)).mergeSort _).map (·.2) =
    ((keyed.mergeSort _).map (·.2)).map f
  rw [hkeyed, ← hsorted, List.map_map, List.map_map]
  rfl

theorem sortAt_rename (columns : List (List V)) (i : Nat) :
    sortAt neighbours' (columns.map (List.map f)) i =
      (sortAt neighbours columns i).map (List.map f) := by
  suffices ∀ rest : List (List V),
      (rest.map (List.map f)).modify i (sortColumn (columns.map (List.map f)) neighbours') =
        (rest.modify i (sortColumn columns neighbours)).map (List.map f) from this columns
  intro rest
  induction rest generalizing i with
  | nil => rw [List.map_nil, List.modify_nil, List.modify_nil, List.map_nil]
  | cons column rest ih =>
    cases i with
    | zero => exact congrArg (· :: _) (sortColumn_rename h columns column)
    | succ i => exact congrArg (_ :: ·) (ih i)

theorem foldl_sortAt_rename (columns : List (List V)) (is : List Nat) :
    is.foldl (sortAt neighbours') (columns.map (List.map f)) =
      (is.foldl (sortAt neighbours) columns).map (List.map f) :=
  List.foldl_hom (List.map (List.map f)) (sortAt_rename h)

end

theorem sweep_rename (forwards : Bool) (columns : List (List V)) :
    (g.rename f).sweep forwards (columns.map (List.map f)) =
      (g.sweep forwards columns).map (List.map f) := by
  rw [sweep, List.length_map]
  cases forwards with
  | true => exact foldl_sortAt_rename (previous_rename f g) columns _
  | false => exact foldl_sortAt_rename (next_rename f g) columns _

theorem ordered_rename (sweeps : Nat) (columns : List (List V)) :
    (g.rename f).ordered sweeps (columns.map (List.map f)) =
      (g.ordered sweeps columns).map (List.map f) :=
  List.foldl_hom (List.map (List.map f)) fun columns s => sweep_rename f g (s % 2 = 0) columns

end Digraph

namespace Layered

open Scalar

/-- A node with its size or its box, in another name. -/
def renameNode {β : Type} (f : V ↪ W) (n : V × β) : W × β := (f n.1, n.2)

variable [Scalar α]

theorem sized_rename (g : FlowGraph V α) (column : List V) :
    sized (g.rename f) (column.map f) = (sized g column).map (renameNode f) := by
  have hlookup (v : V) : (g.rename f).nodes.lookup (f v) = g.nodes.lookup v := by
    show (g.nodes.map (renameNode f)).lookup (f v) = g.nodes.lookup v
    induction g.nodes with
    | nil => rfl
    | cons n rest ih =>
      rw [List.map_cons, renameNode, List.lookup_cons, List.lookup_cons, f.injective.beq_eq, ih]
  simp only [sized, List.map_map, Function.comp_def, hlookup, renameNode]

omit [DecidableEq V] [DecidableEq W] in
theorem stack_rename (nodeSep centre top : α) (column : Column V α) :
    stack nodeSep centre top (column.map (renameNode f)) =
      (stack nodeSep centre top column).map (renameNode f) := by
  induction column generalizing top with
  | nil => rfl
  | cons n rest ih => exact congrArg (_ :: ·) (ih _)

omit [DecidableEq V] [DecidableEq W] in
theorem columnWidth_rename (column : Column V α) :
    columnWidth (column.map (renameNode f)) = columnWidth column := by
  rw [columnWidth, List.map_map, columnWidth]
  rfl

omit [DecidableEq V] [DecidableEq W] in
theorem columnHeight_rename (nodeSep : α) (column : Column V α) :
    columnHeight nodeSep (column.map (renameNode f)) = columnHeight nodeSep column := by
  rw [columnHeight, List.map_map, List.length_map, columnHeight]
  rfl

omit [DecidableEq V] [DecidableEq W] in
theorem placeFrom_rename (config : Config α) (tallest left : α) (columns : List (Column V α)) :
    placeFrom config tallest left (columns.map (List.map (renameNode f))) =
      (placeFrom config tallest left columns).map (renameNode f) := by
  induction columns generalizing left with
  | nil => rfl
  | cons column rest ih =>
    rw [List.map_cons, placeFrom, columnWidth_rename, columnHeight_rename, stack_rename, ih,
      placeFrom, List.map_append]

omit [DecidableEq V] [DecidableEq W] in
theorem place_rename (config : Config α) (columns : List (Column V α)) :
    place config (columns.map (List.map (renameNode f))) =
      (place config columns).map (renameNode f) := by
  have hheights : (columns.map (List.map (renameNode f))).map (columnHeight config.nodeSep) =
      columns.map (columnHeight config.nodeSep) := by
    rw [List.map_map]
    exact List.map_congr_left fun column _ => columnHeight_rename f config.nodeSep column
  rw [place, hheights, placeFrom_rename, place]

/-- **Names carry no geometry**: if the nodes of a graph are given other names, the same boxes are
placed in the same order, under the other names. In neither graph does it matter how names are
compared where columns are sorted by whole keys. -/
theorem solve_rename (config : Config α) (g : FlowGraph V α) :
    solve config (g.rename f) = (solve config g).map (renameNode f) ∧
      ∀ (before : V → V → Bool) (before' : W → W → Bool),
        solveBy before config g = solve config g ∧
          solveBy before' config (g.rename f) = solve config (g.rename f) := by
  refine ⟨?renamed, fun before before' => ⟨solveBy_eq before config g, solveBy_eq before' config _⟩⟩
  have hcolumns : orderedColumns config.sweeps (g.rename f).digraph.acyclic =
      (orderedColumns config.sweeps g.digraph.acyclic).map (List.map f) := by
    rw [FlowGraph.digraph_rename, Digraph.acyclic_rename, orderedColumns, Digraph.columns_rename,
      Digraph.ordered_rename, orderedColumns]
  have hsized : ((orderedColumns config.sweeps g.digraph.acyclic).map (List.map f)).map
      (sized (g.rename f)) =
        ((orderedColumns config.sweeps g.digraph.acyclic).map (sized g)).map
          (List.map (renameNode f)) := by
    rw [List.map_map, List.map_map]
    exact List.map_congr_left fun column _ => sized_rename f g column
  rw [solve, hcolumns, hsized, place_rename, solve]

end Layered

end Swimlane
