import Swimlane.Proofs.Flow.Search

/-!
# The trails of one search

A depth-first search that never stops comes to every node once, each time on the path of the nodes
that it is still searching below. An edge leads back when its end is on the path of its start: these
are the edges that close a cycle while the search goes on.

- `Digraph.explore`, `Digraph.trails`: the search, which records each node with its path.
- `Digraph.leadsBack`: whether an edge leads back in that search.
- `Digraph.Recorded`: what every record of the search satisfies. A path consists of edges that do
  not lead back (`Digraph.reaches_of_mem_trails`).
- `Digraph.trails_keep`: without some of the edges that lead back, the search takes the same course.
- `Digraph.leadsBack_of_closingEdge?`: a search that stops at the first closing edge stops at an
  edge that leads back.
-/

namespace Swimlane.Digraph

open Relation

variable {V : Type} [DecidableEq V] {g : Digraph V}

/-- Nodes that a search came to, each with the path on which it did, backwards. -/
abbrev Records (V : Type) := List (V × List V)

/-- The nodes that a search came to. -/
def Records.nodes (found : Records V) : List V := found.map (·.1)

/-- Searches below a node unless the search came to it before. -/
def enter (search : Records V → V → Records V) (found : Records V) (w : V) : Records V :=
  if w ∈ found.nodes then found else search found w

/-- Searches below a node that is reached by the given path, and records what it comes to. The fuel
bounds the length of the path. -/
def explore (g : Digraph V) : Nat → List V → Records V → V → Records V
  | 0, _, found, _ => found
  | fuel + 1, path, found, v =>
    (g.next v).foldl (enter (g.explore fuel (v :: path))) ((v, path) :: found)

/-- The records of the search from every node in order. -/
def trails (g : Digraph V) : Records V :=
  g.nodes.foldl (enter (g.explore g.nodes.length [])) []

/-- Whether an edge leads to its own start or to a node on the path of its start. -/
def leadsBack (g : Digraph V) (e : V × V) : Bool :=
  g.trails.any fun t => t.1 = e.1 ∧ e.2 ∈ e.1 :: t.2

theorem leadsBack_iff {e : V × V} :
    g.leadsBack e = true ↔ ∃ path, (e.1, path) ∈ g.trails ∧ e.2 ∈ e.1 :: path := by
  simp only [leadsBack, List.any_eq_true, decide_eq_true_eq, Prod.exists]
  constructor
  · rintro ⟨_, path, hmem, rfl, hback⟩
    exact ⟨path, hmem, hback⟩
  · rintro ⟨path, hmem, hback⟩
    exact ⟨e.1, path, hmem, rfl, hback⟩

/-! ### Records are kept -/

omit [DecidableEq V] in
theorem Records.mem_nodes {found : Records V} {v : V} {path : List V} (h : (v, path) ∈ found) :
    v ∈ found.nodes :=
  List.mem_map_of_mem h

omit [DecidableEq V] in
theorem Records.nodes_subset {found found' : Records V} (h : found ⊆ found') :
    found.nodes ⊆ found'.nodes :=
  List.map_subset _ h

theorem subset_enter {search : Records V → V → Records V} {found : Records V} {w : V}
    (h : found ⊆ search found w) : found ⊆ enter search found w := by
  unfold enter
  split
  · exact fun _ ht => ht
  · exact h

theorem subset_foldl_enter {search : Records V → V → Records V}
    (h : ∀ found w, found ⊆ search found w) (found : Records V) (ws : List V) :
    found ⊆ ws.foldl (enter search) found := by
  induction ws generalizing found with
  | nil => exact fun _ ht => ht
  | cons w ws ih => exact fun t ht => ih _ (subset_enter (h found w) ht)

theorem subset_explore (g : Digraph V) (fuel : Nat) (path : List V) (found : Records V) (v : V) :
    found ⊆ g.explore fuel path found v := by
  induction fuel generalizing path found v with
  | zero => exact fun _ ht => ht
  | succ fuel ih => exact fun t ht => subset_foldl_enter (ih (v :: path)) _ _ (.tail _ ht)

/-! ### What a record says -/

/-- The path on which a node is about to be recorded ends with an edge to it. -/
def LeadsTo (g : Digraph V) (found : Records V) (w : V) : List V → Prop
  | [] => True
  | v :: path => (v, path) ∈ found ∧ g.Edge v w

/-- No node is recorded twice, and none on a path that it is on itself; a path ends with an edge
from a node that is recorded with the rest of the path. -/
structure Recorded (g : Digraph V) (found : Records V) : Prop where
  nodup : found.nodes.Nodup
  off_path : ∀ {v path}, (v, path) ∈ found → v ∉ path
  last_edge : ∀ {w path}, (w, path) ∈ found → g.LeadsTo found w path

omit [DecidableEq V] in
theorem LeadsTo.mono {found found' : Records V} {w : V} {path : List V}
    (h : g.LeadsTo found w path) (sub : found ⊆ found') : g.LeadsTo found' w path := by
  cases path with
  | nil => trivial
  | cons v path => exact ⟨sub h.1, h.2⟩

omit [DecidableEq V] in
/-- The nodes of a path are recorded themselves. -/
theorem Recorded.path_subset {found : Records V} (hg : g.Recorded found) {w : V} {path : List V}
    (h : g.LeadsTo found w path) : path ⊆ found.nodes := by
  induction path generalizing w with
  | nil => exact List.nil_subset _
  | cons v path ih =>
    exact List.cons_subset.2 ⟨Records.mem_nodes h.1, ih (hg.last_edge h.1)⟩

omit [DecidableEq V] in
theorem Recorded.cons {found : Records V} (hg : g.Recorded found) {w : V} {path : List V}
    (hfresh : w ∉ found.nodes) (h : g.LeadsTo found w path) : g.Recorded ((w, path) :: found) where
  nodup := List.nodup_cons.2 ⟨hfresh, hg.nodup⟩
  off_path := by
    intro v p hv
    rcases List.mem_cons.1 hv with heq | hv
    · obtain ⟨rfl, rfl⟩ := Prod.mk.inj heq
      exact fun hpath => hfresh (hg.path_subset h hpath)
    · exact hg.off_path hv
  last_edge := by
    intro v p hv
    have sub : found ⊆ (w, path) :: found := List.subset_cons_self _ _
    rcases List.mem_cons.1 hv with heq | hv
    · obtain ⟨rfl, rfl⟩ := Prod.mk.inj heq
      exact h.mono sub
    · exact (hg.last_edge hv).mono sub

/-- What holds of the records and is kept by each search is kept by a list of them. -/
theorem foldl_enter_invariant {search : Records V → V → Records V} {P : Records V → Prop}
    {ws : List V} (h : ∀ found w, w ∈ ws → w ∉ found.nodes → P found → P (search found w))
    {found : Records V} (hfound : P found) : P (ws.foldl (enter search) found) := by
  induction ws generalizing found with
  | nil => exact hfound
  | cons w ws ih =>
    refine ih (fun found x hx => h found x (.tail _ hx)) ?_
    unfold enter
    split
    · exact hfound
    · next hfresh => exact h found w (.head _) hfresh hfound

theorem explore_recorded (fuel : Nat) {path : List V} {found : Records V} {v : V}
    (hg : g.Recorded found) (hfresh : v ∉ found.nodes) (h : g.LeadsTo found v path) :
    g.Recorded (g.explore fuel path found v) := by
  induction fuel generalizing path found v with
  | zero => exact hg
  | succ fuel ih =>
    -- while the search goes on below `v`, its own record stays
    suffices ∀ found', g.Recorded found' ∧ (v, path) ∈ found' →
        ∀ ws : List V, (∀ w ∈ ws, g.Edge v w) →
        g.Recorded (ws.foldl (enter (g.explore fuel (v :: path))) found') from
      this _ ⟨hg.cons hfresh h, .head _⟩ _ fun w hw => mem_next.1 hw
    intro found' hfound' ws hws
    refine (foldl_enter_invariant (P := fun f => g.Recorded f ∧ (v, path) ∈ f)
      (fun f w hw hnew hf => ?_) hfound').1
    exact ⟨ih hf.1 hnew ⟨hf.2, hws w hw⟩, subset_explore g _ _ _ _ hf.2⟩

theorem trails_recorded (g : Digraph V) : g.Recorded g.trails :=
  foldl_enter_invariant (P := g.Recorded)
    (fun _ w _ hfresh hf => explore_recorded _ hf hfresh (show g.LeadsTo _ w [] from trivial))
    ⟨.nil, fun h => (nomatch h), fun h => (nomatch h)⟩

/-- A node has one path. -/
theorem eq_of_mem_trails {v : V} {path path' : List V} (h : (v, path) ∈ g.trails)
    (h' : (v, path') ∈ g.trails) : path = path' :=
  congrArg Prod.snd (List.inj_on_of_nodup_map g.trails_recorded.nodup h h' rfl)

/-- From every node on the path of another one, a walk along the path leads there. None of its edges
leads back. -/
theorem reaches_of_mem_trails {v w : V} {path : List V} (h : (v, path) ∈ g.trails)
    (hw : w ∈ v :: path) : ReflTransGen (g.keep fun e => !g.leadsBack e).Edge w v := by
  have hg := g.trails_recorded
  induction path generalizing v with
  | nil => rw [List.mem_singleton.1 hw]
  | cons u path ih =>
    rcases List.mem_cons.1 hw with rfl | hw
    · exact .refl
    · obtain ⟨hu, hedge⟩ := hg.last_edge h
      refine (ih hu hw).tail (mem_keep.2 ⟨hedge, ?_⟩)
      -- the path of `u` is the rest of the path, which `v` is not on
      suffices g.leadsBack (u, v) ≠ true by simpa using this
      rw [Ne, leadsBack_iff]
      rintro ⟨path', hu', hback⟩
      exact hg.off_path h (eq_of_mem_trails hu' hu ▸ hback)

/-! ### The course of the search -/

theorem next_keep (p : V × V → Bool) (v : V) :
    (g.keep p).next v = (g.next v).filter fun w => p (v, w) := by
  simp only [next, keep, List.filter_map, List.filter_filter]
  congr 1
  refine List.filter_congr fun e _ => ?_
  by_cases h : e.1 = v
  · simp [← h]
  · simp [h]

/-- Two lists of searches have one result if the first leaves out only nodes that were recorded
before, and each search of the first is one of the second as long as its records belong to the
result. -/
theorem foldl_enter_filter {search search' : Records V → V → Records V}
    (hgrow : ∀ found w, found ⊆ search found w) {q : V → Bool} {ws : List V}
    {found result : Records V} (hskip : ∀ w ∈ ws, q w = false → w ∈ found.nodes)
    (hresult : ws.foldl (enter search) found ⊆ result)
    (hsame : ∀ found' w, found ⊆ found' → search found' w ⊆ result →
      search' found' w = search found' w) :
    (ws.filter q).foldl (enter search') found = ws.foldl (enter search) found := by
  induction ws generalizing found with
  | nil => rfl
  | cons w ws ih =>
    have hkept : found ⊆ enter search found w := subset_enter (hgrow found w)
    have hrest := ih (fun x hx hq => Records.nodes_subset hkept (hskip x (.tail _ hx) hq)) hresult
      fun found' x hsub => hsame found' x fun t ht => hsub (hkept ht)
    rw [List.foldl_cons, ← hrest]
    -- a node that is left out was recorded before, so that its search is skipped anyway
    cases hq : q w with
    | true =>
      rw [List.filter_cons_of_pos hq, List.foldl_cons]
      congr 1
      unfold enter
      split
      · rfl
      · next hnew =>
        refine hsame found w (fun _ ht => ht) fun t ht => hresult ?_
        refine subset_foldl_enter hgrow _ ws ?_
        rwa [enter, if_neg hnew]
    | false =>
      rw [List.filter_cons_of_neg (by simp [hq]), enter, if_pos (hskip w (.head _) hq)]

theorem explore_keep {p : V × V → Bool} (fuel : Nat) {path : List V} {found : Records V} {v : V}
    (hpath : path ⊆ found.nodes)
    (h : ∀ e ∈ g.edges, p e = false → ∀ q, (e.1, q) ∈ g.explore fuel path found v →
      e.2 ∈ e.1 :: q) :
    (g.keep p).explore fuel path found v = g.explore fuel path found v := by
  induction fuel generalizing path found v with
  | zero => rfl
  | succ fuel ih =>
    have hgrow := subset_explore g fuel (v :: path)
    have hsub : v :: path ⊆ Records.nodes ((v, path) :: found) :=
      List.cons_subset.2 ⟨.head _, fun u hu => .tail _ (hpath hu)⟩
    rw [explore, next_keep]
    refine foldl_enter_filter hgrow (fun w hw hp => ?_) (fun _ ht => ht) fun found' w hf hr => ?_
    · -- the edge leads back to a node that was recorded before
      exact hsub (h (v, w) (mem_next.1 hw) hp path (subset_foldl_enter hgrow _ _ (.head _)))
    · exact ih (fun u hu => Records.nodes_subset hf (hsub hu))
        fun e he hp q hq => h e he hp q (hr hq)

/-- Without some of the edges that lead back, the search takes the same course. -/
theorem trails_keep {p : V × V → Bool} (h : ∀ e ∈ g.edges, p e = false → g.leadsBack e = true) :
    (g.keep p).trails = g.trails := by
  have hback : ∀ e ∈ g.edges, p e = false → ∀ q, (e.1, q) ∈ g.trails → e.2 ∈ e.1 :: q := by
    intro e he hp q hq
    obtain ⟨path, hpath, hmem⟩ := leadsBack_iff.1 (h e he hp)
    exact eq_of_mem_trails hpath hq ▸ hmem
  have hroots : (g.nodes.filter fun _ => true).foldl
      (enter ((g.keep p).explore g.nodes.length [])) [] = g.trails :=
    foldl_enter_filter (subset_explore g g.nodes.length []) (fun _ _ hq => nomatch hq)
      (fun _ ht => ht) fun found v _ hr => explore_keep _ (List.nil_subset _)
        fun e he hp q hq => hback e he hp q (hr hq)
  rwa [List.filter_eq_self.2 fun _ _ => rfl] at hroots

/-! ### The search that stops -/

/-- How a search that stops at the first closing edge agrees with one that never stops. -/
def Search.Agrees : Search V → Records V → Prop
  | .closed e, found => ∃ path, (e.1, path) ∈ found ∧ e.2 ∈ e.1 :: path
  | .clear seen, found => seen = found.nodes

omit [DecidableEq V] in
/-- An edge that was found stays one that closes a cycle. -/
theorem Search.Agrees.mono {e : V × V} {found found' : Records V}
    (h : (Search.closed e).Agrees found) (sub : found ⊆ found') :
    (Search.closed e).Agrees found' :=
  let ⟨path, hmem, hback⟩ := h
  ⟨path, sub hmem, hback⟩

theorem agrees_foldl_step {visit : List V → List V → V → Search V}
    {search : Records V → V → Records V} (hgrow : ∀ found w, found ⊆ search found w)
    {v : V} {path : List V} {ws : List V}
    (h : ∀ found w, v :: path ⊆ found.nodes →
      (visit (v :: path) found.nodes w).Agrees (search found w))
    {s : Search V} {found : Records V} (hs : s.Agrees found) (hv : (v, path) ∈ found)
    (hpath : v :: path ⊆ found.nodes) :
    (ws.foldl (step visit v (v :: path)) s).Agrees (ws.foldl (enter search) found) := by
  induction ws generalizing s found with
  | nil => exact hs
  | cons w ws ih =>
    have hkept : found ⊆ enter search found w := subset_enter (hgrow found w)
    refine ih ?_ (hkept hv) fun u hu => Records.nodes_subset hkept (hpath hu)
    cases s with
    | closed e => exact hs.mono hkept
    | clear seen =>
      obtain rfl : seen = found.nodes := hs
      simp only [step]
      -- the edge closes a cycle, or leads to a known node, or to a new one
      split
      · next hw => exact ⟨path, hkept hv, hw⟩
      · unfold enter
        split
        · exact rfl
        · exact h found w hpath

theorem agrees_visit (fuel : Nat) {path : List V} {found : Records V} {v : V}
    (hpath : path ⊆ found.nodes) :
    (g.visit fuel path found.nodes v).Agrees (g.explore fuel path found v) := by
  induction fuel generalizing path found v with
  | zero => exact rfl
  | succ fuel ih =>
    have hs : (Search.clear (v :: found.nodes)).Agrees ((v, path) :: found) := rfl
    exact agrees_foldl_step (subset_explore g fuel (v :: path)) (fun _ _ hsub => ih hsub) hs
      (.head _) (List.cons_subset.2 ⟨.head _, fun u hu => .tail _ (hpath hu)⟩)

theorem agrees_foldl_stepRoot {vs : List V} {s : Search V} {found : Records V}
    (hs : s.Agrees found) :
    (vs.foldl g.stepRoot s).Agrees (vs.foldl (enter (g.explore g.nodes.length [])) found) := by
  induction vs generalizing s found with
  | nil => exact hs
  | cons v vs ih =>
    refine ih ?_
    cases s with
    | closed e => exact hs.mono (subset_enter (subset_explore g _ _ _ _))
    | clear seen =>
      obtain rfl : seen = found.nodes := hs
      unfold enter
      simp only [stepRoot]
      split
      · exact rfl
      · exact agrees_visit _ (List.nil_subset _)

/-- A search that stops at the first closing edge stops at an edge that leads back. -/
theorem leadsBack_of_closingEdge? {e : V × V} (h : g.closingEdge? = some e) :
    g.leadsBack e = true := by
  have hagrees : (g.nodes.foldl g.stepRoot (.clear [])).Agrees g.trails :=
    agrees_foldl_stepRoot rfl
  unfold closingEdge? at h
  split at h
  · next e' he =>
    cases h
    rw [he] at hagrees
    exact leadsBack_iff.2 hagrees
  · cases h

end Swimlane.Digraph
