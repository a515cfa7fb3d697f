import Swimlane.Proofs.Flow.Breaking

/-!
# One pass

Cycles are broken in rounds, each of which searches from scratch for one edge to cut. One search of
the graph that never stops does the same: from every node in order, along its edges in order, it
notes each edge that leads to a node on its path and goes on. It finds the very edges that the
rounds cut, in the order in which they cut them, since a search that starts over without an edge
takes the same course up to that edge and goes on behind it.

- `Digraph.Pass`, `Digraph.OnePass`: the search that never stops, as a relation.
- `Digraph.exists_pass`: it comes to an end.
- `Digraph.Pass.mem_found`: what it finds.
- `Digraph.OnePass.closingEdge?_eq`: a search that stops does so at the first edge of the pass.
- `Digraph.OnePass.erase`: without this edge, the pass finds the other ones.
- `Digraph.cuts`, `Digraph.OnePass.cuts_eq`: the edges that the rounds cut, one after another.
- `Digraph.cutEdges_onePass`: they are what one pass finds.
-/

namespace Swimlane.Digraph

variable {V : Type} [DecidableEq V] {g : Digraph V}

/-- A search that never stops goes from the end of a path, which stands backwards, to some nodes in
order; without a path, to its roots. The lists are the path, the nodes seen before, the nodes to go
to, the nodes seen afterwards, and the edges that were found to lead to a node on the path. -/
inductive Pass (g : Digraph V) : List V → List V → List V → List V → List (V × V) → Prop
  | done {path seen : List V} : g.Pass path seen [] seen []
  | back {v w : V} {path seen seen' ws : List V} {found : List (V × V)} (on : w ∈ v :: path)
      (rest : g.Pass (v :: path) seen ws seen' found) :
      g.Pass (v :: path) seen (w :: ws) seen' ((v, w) :: found)
  | known {w : V} {path seen seen' ws : List V} {found : List (V × V)} (off : w ∉ path)
      (old : w ∈ seen) (rest : g.Pass path seen ws seen' found) :
      g.Pass path seen (w :: ws) seen' found
  | fresh {w : V} {path seen seen₁ seen' ws : List V} {found found' : List (V × V)} (off : w ∉ path)
      (new : w ∉ seen) (below : g.Pass (w :: path) (w :: seen) (g.next w) seen₁ found)
      (rest : g.Pass path seen₁ ws seen' found') :
      g.Pass path seen (w :: ws) seen' (found ++ found')

/-- The search of the whole graph that never stops finds these edges. -/
def OnePass (g : Digraph V) (found : List (V × V)) : Prop := ∃ seen, g.Pass [] [] g.nodes seen found

variable {path seen seen' ws : List V} {found : List (V × V)} {e : V × V}

/-! ### The course of a pass -/

theorem Pass.subset (h : g.Pass path seen ws seen' found) : seen ⊆ seen' := by
  induction h with
  | done => exact fun _ hx => hx
  | back _ _ ih => exact ih
  | known _ _ _ ih => exact ih
  | fresh _ _ _ _ ihbelow ih => exact fun _ hx => ih (ihbelow (.tail _ hx))

/-- The nodes of the graph that were not seen. -/
def unseen (g : Digraph V) (seen : List V) : List V := g.nodes.filter (· ∉ seen)

theorem length_unseen_le {seen seen' : List V} (h : seen ⊆ seen') :
    (g.unseen seen').length ≤ (g.unseen seen).length := by
  refine (List.monotone_filter_right g.nodes fun v hv => ?_).length_le
  exact decide_eq_true fun hseen => of_decide_eq_true hv (h hseen)

theorem length_unseen_cons_lt {w : V} (hw : w ∈ g.nodes) (hnew : w ∉ seen) :
    (g.unseen (w :: seen)).length < (g.unseen seen).length := by
  have hfilter : g.unseen (w :: seen) = (g.unseen seen).filter (· ≠ w) := by
    rw [unseen, unseen, List.filter_filter]
    refine List.filter_congr fun v _ => ?_
    by_cases h : v = w <;> simp [h]
  rw [hfilter]
  exact List.length_filter_lt_length_iff_exists.2
    ⟨w, List.mem_filter.2 ⟨hw, decide_eq_true hnew⟩, by simp⟩

/-- A pass comes to an end, since a node is entered only if it was not seen before. -/
theorem exists_pass (path seen : List V) {ws : List V} (hws : ws ⊆ g.nodes) :
    ∃ seen' found, g.Pass path seen ws seen' found := by
  suffices ∀ n path seen ws, (g.unseen seen).length < n → ws ⊆ g.nodes →
      ∃ seen' found, g.Pass path seen ws seen' found from
    this _ path seen ws (Nat.lt_succ_self _) hws
  intro n
  induction n with
  | zero => exact fun _ _ _ hn => absurd hn (Nat.not_lt_zero _)
  | succ n ih =>
    intro path seen ws hn hws
    induction ws generalizing seen with
    | nil => exact ⟨seen, [], .done⟩
    | cons w ws ihws =>
      obtain ⟨hw, hws⟩ := List.cons_subset.1 hws
      by_cases hon : w ∈ path
      · obtain ⟨seen', found, rest⟩ := ihws seen hn hws
        cases path with
        | nil => cases hon
        | cons v path => exact ⟨seen', _, .back hon rest⟩
      · by_cases hold : w ∈ seen
        · obtain ⟨seen', found, rest⟩ := ihws seen hn hws
          exact ⟨seen', found, .known hon hold rest⟩
        · have hless := length_unseen_cons_lt hw hold
          obtain ⟨seen₁, found₁, below⟩ := ih (w :: path) (w :: seen) (g.next w) (by omega)
            fun x hx => Edge.target_mem (mem_next.1 hx)
          have hseen : seen ⊆ seen₁ := fun x hx => below.subset (.tail _ hx)
          have hle := length_unseen_le (g := g) hseen
          obtain ⟨seen', found, rest⟩ := ihws seen₁ (by omega) hws
          exact ⟨seen', _, .fresh hon hold below rest⟩

/-- A pass sees the nodes that it goes to. -/
theorem Pass.mem_seen (h : g.Pass path seen ws seen' found) (hpath : path ⊆ seen) : ws ⊆ seen' := by
  induction h with
  | done => exact List.nil_subset _
  | back on rest ih => exact List.cons_subset.2 ⟨rest.subset (hpath on), ih hpath⟩
  | known _ old rest ih => exact List.cons_subset.2 ⟨rest.subset old, ih hpath⟩
  | fresh _ _ below rest _ ih =>
    have hseen := below.subset
    exact List.cons_subset.2 ⟨rest.subset (hseen (.head _)),
      ih fun x hx => hseen (.tail _ (hpath hx))⟩

/-- A pass sees the nodes that edges lead to from the nodes that it enters. -/
theorem Pass.next_subset (h : g.Pass path seen ws seen' found) (hpath : path ⊆ seen) {v : V}
    (hv : v ∈ seen') (hnew : v ∉ seen) : g.next v ⊆ seen' := by
  induction h with
  | done => exact absurd hv hnew
  | back _ _ ih => exact ih hpath hv hnew
  | known _ _ _ ih => exact ih hpath hv hnew
  | @fresh w path seen seen₁ _ _ _ _ _ _ below rest ihbelow ih =>
    have hpath' : w :: path ⊆ w :: seen := List.cons_subset_cons w hpath
    by_cases hold : v ∈ seen₁
    · refine fun x hx => rest.subset ?_
      rcases eq_or_ne v w with rfl | hne
      · exact below.mem_seen hpath' hx
      · exact ihbelow hpath' hold (fun hm => (List.mem_cons.1 hm).elim hne hnew) hx
    · exact ih (fun x hx => below.subset (.tail _ (hpath hx))) hv hold

/-! ### What a pass finds -/

/-- What a pass finds leads to a node of its path from the end of the path, or it starts at a node
that the pass enters. -/
theorem Pass.mem_found (h : g.Pass path seen ws seen' found) (he : e ∈ found) :
    (path.head? = some e.1 ∧ e.2 ∈ path ∧ e.2 ∈ ws) ∨
      (e.1 ∈ seen' ∧ e.1 ∉ seen ∧ g.Edge e.1 e.2) := by
  induction h with
  | done => cases he
  | back on _ ih =>
    rcases List.mem_cons.1 he with rfl | he
    · exact .inl ⟨rfl, on, .head _⟩
    · exact (ih he).imp_left fun ⟨hend, hpath, hws⟩ => ⟨hend, hpath, .tail _ hws⟩
  | known _ _ _ ih =>
    exact (ih he).imp_left fun ⟨hend, hpath, hws⟩ => ⟨hend, hpath, .tail _ hws⟩
  | fresh _ new below rest ihbelow ih =>
    rcases List.mem_append.1 he with he | he
    · -- found below: from the node that is entered, or from one that is entered behind it
      refine .inr ?_
      rcases ihbelow he with ⟨hend, -, hnext⟩ | ⟨hseen, hnew, hedge⟩
      · obtain rfl := Option.some.inj hend
        exact ⟨rest.subset (below.subset (.head _)), new, mem_next.1 hnext⟩
      · exact ⟨rest.subset hseen, fun hold => hnew (.tail _ hold), hedge⟩
    · rcases ih he with ⟨hend, hpath, hws⟩ | ⟨hseen, hnew, hedge⟩
      · exact .inl ⟨hend, hpath, .tail _ hws⟩
      · exact .inr ⟨hseen, fun hold => hnew (below.subset (.tail _ hold)), hedge⟩

/-- What a pass finds from the end of its path leads to a node of the path. -/
theorem Pass.mem_path_of_head? (h : g.Pass path seen ws seen' found) (hpath : path ⊆ seen)
    (he : e ∈ found) (hend : path.head? = some e.1) : e.2 ∈ path := by
  rcases h.mem_found he with ⟨-, hon, -⟩ | ⟨-, hnew, -⟩
  · exact hon
  · exact absurd (hpath (List.mem_of_head? hend)) hnew

/-- From a node that it does not enter, a pass finds nothing, unless this is the end of its path. -/
theorem Pass.not_mem_found (h : g.Pass path seen ws seen' found) {v : V}
    (hv : v ∈ seen ∨ v ∉ seen') (hend : path.head? ≠ some v) (w : V) : (v, w) ∉ found := by
  intro hmem
  rcases h.mem_found hmem with ⟨heq, -, -⟩ | ⟨hseen, hnew, -⟩
  · exact hend heq
  · exact hv.elim hnew fun hnot => hnot hseen

/-! ### The search that stops -/

/-- What a search that stops at the first edge to a node on its path comes to, where a pass sees
these nodes and finds these edges. -/
def Search.ofPass (seen : List V) : List (V × V) → Search V
  | [] => .clear seen
  | e :: _ => .closed e

/-- A step of the search that stops, along an edge from the end of a path or to a root. -/
def turn (g : Digraph V) (fuel : Nat) : List V → Search V → V → Search V
  | [] => g.stepRoot
  | v :: path => step (g.visit fuel) v (v :: path)

theorem foldl_turn_closed (fuel : Nat) (path : List V) (e : V × V) (ws : List V) :
    ws.foldl (g.turn fuel path) (.closed e) = .closed e := by
  cases path with
  | nil => exact foldl_stepRoot_closed e ws
  | cons v path => exact foldl_step_closed _ v _ e ws

theorem turn_known {fuel : Nat} {w : V} (off : w ∉ path) (old : w ∈ seen) :
    g.turn fuel path (.clear seen) w = .clear seen := by
  cases path with
  | nil => exact if_pos old
  | cons v path =>
    show (if w ∈ v :: path then _ else if w ∈ seen then _ else _) = _
    rw [if_neg off, if_pos old]

theorem turn_fresh {fuel : Nat} {w : V} (hfuel : fuel + path.length = g.nodes.length)
    (off : w ∉ path) (new : w ∉ seen) :
    g.turn fuel path (.clear seen) w = g.visit fuel path seen w := by
  cases path with
  | nil =>
    obtain rfl : fuel = g.nodes.length := hfuel
    exact if_neg new
  | cons v path =>
    show (if w ∈ v :: path then _ else if w ∈ seen then _ else _) = _
    rw [if_neg off, if_neg new]

/-- A search that stops takes the course of a pass as far as the first edge that is found. The fuel
is no limit, since a path never meets a node twice. -/
theorem Pass.foldl_turn (h : g.Pass path seen ws seen' found) {fuel : Nat}
    (hfuel : fuel + path.length = g.nodes.length) (hnodup : path.Nodup) (hnodes : path ⊆ g.nodes)
    (hws : ws ⊆ g.nodes) :
    ws.foldl (g.turn fuel path) (.clear seen) = .ofPass seen' found := by
  induction h generalizing fuel with
  | done => rfl
  | @back v w path seen _ ws _ on _ _ =>
    have hturn : g.turn fuel (v :: path) (.clear seen) w = .closed (v, w) := if_pos on
    rw [List.foldl_cons, hturn, foldl_turn_closed]
    rfl
  | known off old _ ih =>
    rw [List.foldl_cons, turn_known off old]
    exact ih hfuel hnodup hnodes (List.cons_subset.1 hws).2
  | @fresh w path seen seen₁ seen' ws found found' off new _ _ ihbelow ih =>
    obtain ⟨hw, hws⟩ := List.cons_subset.1 hws
    have hnodup' : (w :: path).Nodup := List.nodup_cons.2 ⟨off, hnodup⟩
    have hnodes' : w :: path ⊆ g.nodes := List.cons_subset.2 ⟨hw, hnodes⟩
    have hlength := (List.subperm_of_subset hnodup' hnodes').length_le
    rw [List.length_cons] at hlength
    obtain ⟨fuel, rfl⟩ : ∃ n, fuel = n + 1 := ⟨fuel - 1, by omega⟩
    have hbelow : g.visit (fuel + 1) path seen w = .ofPass seen₁ found := by
      refine ihbelow ?_ hnodup' hnodes' fun x hx => Edge.target_mem (mem_next.1 hx)
      rw [List.length_cons]
      omega
    rw [List.foldl_cons, turn_fresh hfuel off new, hbelow]
    cases found with
    | nil => exact ih hfuel hnodup hnodes hws
    | cons e found => exact foldl_turn_closed _ _ e ws

/-- The search that stops finds the first of the edges that one pass finds. -/
theorem OnePass.closingEdge?_eq (h : g.OnePass found) : g.closingEdge? = found.head? := by
  obtain ⟨seen, h⟩ := h
  have hfold : g.nodes.foldl g.stepRoot (.clear []) = .ofPass seen found :=
    h.foldl_turn rfl .nil (List.nil_subset _) fun _ hv => hv
  rw [closingEdge?, hfold]
  cases found with
  | nil => rfl
  | cons e found => rfl

/-! ### A search that starts over -/

theorem nodup_next (g : Digraph V) (v : V) : (g.next v).Nodup := by
  refine (g.nodup_edges.filter _).map_on fun e he f hf heq => ?_
  have hev : e.1 = v := of_decide_eq_true (List.mem_filter.1 he).2
  have hfv : f.1 = v := of_decide_eq_true (List.mem_filter.1 hf).2
  exact Prod.ext (hev.trans hfv.symm) heq

/-- The nodes to go to from the end of a path, but not along a given edge. -/
def avoiding (e : V × V) (path ws : List V) : List V :=
  ws.filter fun w => ¬ (path.head? = some e.1 ∧ w = e.2)

theorem avoiding_eq_self (h : path.head? = some e.1 → e.2 ∉ ws) : avoiding e path ws = ws := by
  refine List.filter_eq_self.2 fun w hw => decide_eq_true ?_
  rintro ⟨hend, rfl⟩
  exact h hend hw

/-- The first edge that a pass finds leads to its path or starts elsewhere, so a node off the path
is not avoided. -/
theorem Pass.avoiding_cons (h : g.Pass path seen ws seen' (e :: found)) (hpath : path ⊆ seen)
    {w : V} (off : w ∉ path) (rest : List V) :
    avoiding e path (w :: rest) = w :: avoiding e path rest := by
  refine List.filter_cons_of_pos (decide_eq_true ?_)
  rintro ⟨hend, rfl⟩
  exact off (h.mem_path_of_head? hpath (.head _) hend)

theorem avoiding_cons_self (v w : V) (path ws : List V) :
    avoiding (v, w) (v :: path) (w :: ws) = avoiding (v, w) (v :: path) ws :=
  List.filter_cons_of_neg (by simp)

theorem next_erase (g : Digraph V) (e : V × V) (v : V) (path : List V) :
    (g.erase e).next v = avoiding e (v :: path) (g.next v) := by
  rw [erase, next_keep, avoiding]
  refine List.filter_congr fun w _ => ?_
  simp [Prod.ext_iff]

theorem next_erase_of_ne {v : V} (h : v ≠ e.1) : (g.erase e).next v = g.next v := by
  rw [next_erase g e v []]
  exact avoiding_eq_self fun hend => absurd (Option.some.inj hend) h

/-- A pass that does not come along an edge takes the same course without it. -/
theorem Pass.erase_of_avoids (h : g.Pass path seen ws seen' found) (he : e.1 ∈ seen ∨ e.1 ∉ seen')
    (hend : path.head? = some e.1 → e.2 ∉ ws) : (g.erase e).Pass path seen ws seen' found := by
  induction h with
  | done => exact .done
  | back on _ ih => exact .back on (ih he fun hv hw => hend hv (.tail _ hw))
  | known off old _ ih => exact .known off old (ih he fun hv hw => hend hv (.tail _ hw))
  | @fresh w path seen seen₁ seen' ws _ _ off new below rest ihbelow ih =>
    have hsub := below.subset
    -- the pass enters `w`, and so the edge does not start there
    have hne : w ≠ e.1 := by
      rintro rfl
      exact he.elim new fun hnot => hnot (rest.subset (hsub (.head _)))
    refine .fresh off new ?_ (ih ?_ fun hv hw => hend hv (.tail _ hw))
    · rw [next_erase_of_ne hne]
      exact ihbelow (he.imp (.tail _) fun hnot hx => hnot (rest.subset hx))
        fun hw => absurd (Option.some.inj hw) hne
    · exact he.imp_left fun hx => hsub (.tail _ hx)

/-- Without the first edge that it finds, a pass goes on with the second one. -/
theorem Pass.erase_first (h : g.Pass path seen ws seen' (e :: found)) (hpath : path ⊆ seen)
    (hnodup : ws.Nodup) : (g.erase e).Pass path seen (avoiding e path ws) seen' found := by
  generalize hall : e :: found = all at h
  induction h generalizing found with
  | done => cases hall
  | back on rest _ =>
    -- this is the edge, and the pass does not come along it again
    obtain ⟨rfl, rfl⟩ := List.cons.inj hall
    have hw := (List.nodup_cons.1 hnodup).1
    rw [avoiding_cons_self, avoiding_eq_self fun _ => hw]
    exact rest.erase_of_avoids (.inl (hpath (.head _))) fun _ => hw
  | @known w path _ _ _ _ off old rest ih =>
    subst hall
    rw [rest.avoiding_cons hpath off]
    exact .known off old (ih hpath (List.nodup_cons.1 hnodup).2 rfl)
  | @fresh w path seen seen₁ seen' ws found₁ found₂ off new below rest ihbelow ih =>
    have hsub := below.subset
    have hpass : g.Pass path seen (w :: ws) seen' (e :: found) := by
      rw [hall]
      exact .fresh off new below rest
    rw [hpass.avoiding_cons hpath off]
    cases found₁ with
    | nil =>
      obtain rfl : e :: found = found₂ := hall
      -- the edge is found later, and starts at no node that is entered below
      have hstart : (path.head? = some e.1 ∨ e.1 ∉ seen₁) :=
        (rest.mem_found (.head _)).imp (fun h => h.1) fun h => h.2.1
      have hne : w ≠ e.1 := by
        rintro rfl
        exact hstart.elim (fun hend => off (List.mem_of_head? hend))
          fun hnot => hnot (hsub (.head _))
      have hbelow : (g.erase e).Pass (w :: path) (w :: seen) ((g.erase e).next w) seen₁ [] := by
        rw [next_erase_of_ne hne]
        refine below.erase_of_avoids (hstart.imp_left fun hend => ?_) fun hend =>
          absurd (Option.some.inj hend) hne
        exact .tail _ (hpath (List.mem_of_head? hend))
      exact .fresh off new hbelow
        (ih (fun x hx => hsub (.tail _ (hpath hx))) (List.nodup_cons.1 hnodup).2 rfl)
    | cons f found₁ =>
      obtain ⟨rfl, rfl⟩ := List.cons.inj hall
      -- the edge is found below, and starts at no node of the path
      have hstart : e.1 ∈ seen₁ ∧ e.1 ∉ path := by
        rcases below.mem_found (.head _) with ⟨hend, -, -⟩ | ⟨hseen, hnot, -⟩
        · obtain rfl := Option.some.inj hend
          exact ⟨hsub (.head _), off⟩
        · exact ⟨hseen, fun hx => hnot (.tail _ (hpath hx))⟩
      have hend : path.head? ≠ some e.1 := fun hend => hstart.2 (List.mem_of_head? hend)
      rw [avoiding_eq_self fun h => absurd h hend]
      refine .fresh off new ?_ (rest.erase_of_avoids (.inl hstart.1) fun h => absurd h hend)
      rw [next_erase g e w path]
      exact ihbelow (List.cons_subset_cons w hpath) (g.nodup_next w) rfl

/-- Without the first edge that it finds, one pass finds the other ones. -/
theorem OnePass.erase (h : g.OnePass (e :: found)) : (g.erase e).OnePass found := by
  obtain ⟨seen, h⟩ := h
  have herase := h.erase_first (List.nil_subset _) g.nodup_nodes
  rw [avoiding_eq_self fun hend => absurd hend (by simp)] at herase
  exact ⟨seen, herase⟩

/-! ### Rounds and one pass -/

/-- The edges that the rounds cut, one after another. -/
def cuts (g : Digraph V) : List (V × V) :=
  match _h : g.closingEdge? with
  | none => []
  | some e => e :: (g.erase e).cuts
termination_by g.edges.length
decreasing_by exact length_edges_erase_lt (closingEdge?_mem _h)

theorem cuts_of_none (h : g.closingEdge? = none) : g.cuts = [] := by
  rw [cuts]
  split
  · rfl
  · next e he => rw [h] at he; cases he

theorem cuts_of_some (h : g.closingEdge? = some e) : g.cuts = e :: (g.erase e).cuts := by
  rw [cuts]
  split
  · next he => rw [h] at he; cases he
  · next e' he => rw [h] at he; cases he; rfl

/-- An edge is left by the rounds if none of them cuts it. -/
theorem mem_cutCycles (g : Digraph V) :
    e ∈ g.cutCycles.edges ↔ e ∈ g.edges ∧ e ∉ g.cuts := by
  induction g using cutCycles.induct with
  | case1 g h => simp [cutCycles_of_none h, cuts_of_none h]
  | case2 g f h ih =>
    rw [cutCycles_of_some h, ih, cuts_of_some h, erase, mem_keep, List.mem_cons, not_or]
    simp [and_assoc]

theorem mem_edges_of_mem_cuts {g : Digraph V} (h : e ∈ g.cuts) : e ∈ g.edges := by
  induction g using cutCycles.induct with
  | case1 g hnone => rw [cuts_of_none hnone] at h; cases h
  | case2 g f hsome ih =>
    rw [cuts_of_some hsome] at h
    rcases List.mem_cons.1 h with rfl | h
    · exact closingEdge?_mem hsome
    · exact (mem_keep.1 (ih h)).1

/-- The rounds cut what one pass finds, in the same order. -/
theorem OnePass.cuts_eq (h : g.OnePass found) : g.cuts = found := by
  induction found generalizing g with
  | nil => exact cuts_of_none h.closingEdge?_eq
  | cons e found ih => rw [cuts_of_some h.closingEdge?_eq, ih h.erase]

theorem onePass_cuts (g : Digraph V) : g.OnePass g.cuts := by
  obtain ⟨seen, found, h⟩ := exists_pass (g := g) [] [] fun _ hv => hv
  have hpass : g.OnePass found := ⟨seen, h⟩
  rwa [hpass.cuts_eq]

/-- An edge is left if it is no loop and no round cuts it. -/
theorem mem_acyclic :
    e ∈ g.acyclic.edges ↔ e ∈ g.edges ∧ e.1 ≠ e.2 ∧ e ∉ g.withoutLoops.cuts := by
  rw [acyclic, mem_cutCycles, mem_withoutLoops, and_assoc]

theorem mem_cutEdges : e ∈ g.cutEdges ↔ e ∈ g.edges ∧ e ∉ g.acyclic.edges := by
  have hsource : e ∈ g.edgesBySource ↔ e ∈ g.edges := by
    simp only [edgesBySource, List.mem_flatMap, List.mem_filter, decide_eq_true_eq]
    exact ⟨fun ⟨_, _, he, _⟩ => he, fun he => ⟨e.1, (g.closed e he).1, he, rfl⟩⟩
  rw [cutEdges, List.mem_filter, hsource, decide_eq_true_eq]

/-- **The rounds are one pass**: the edges that they cut, one after another, are those that the one
search of the graph without its loops finds which never stops, and in all these and the loops are
cut. -/
theorem cutEdges_onePass (g : Digraph V) :
    ∃ found, (∀ found', g.withoutLoops.OnePass found' ↔ found' = found) ∧
      g.withoutLoops.cuts = found ∧
      ∀ e, e ∈ g.cutEdges ↔ (e ∈ g.edges ∧ e.1 = e.2) ∨ e ∈ found := by
  refine ⟨g.withoutLoops.cuts, fun found' => ⟨fun h => h.cuts_eq.symm, ?_⟩, rfl, fun e => ?_⟩
  · rintro rfl
    exact onePass_cuts _
  · rw [mem_cutEdges, mem_acyclic]
    constructor
    · rintro ⟨he, hnot⟩
      by_contra hneither
      push Not at hneither
      exact hnot ⟨he, hneither.1 he, hneither.2⟩
    · rintro (⟨he, hloop⟩ | he)
      · exact ⟨he, fun h => h.2.1 hloop⟩
      · exact ⟨(mem_withoutLoops.1 (mem_edges_of_mem_cuts he)).1, fun h => h.2.2 he⟩

/-- Of two cycles that share edges, the search cuts the two edges that lead back, in its order. -/
example : (⟨[0, 1, 2], [(0, 1), (1, 2), (2, 0), (2, 1)], by decide, by decide, by decide⟩ :
    Digraph Nat).cuts = [(2, 0), (2, 1)] := by decide +kernel

end Swimlane.Digraph
