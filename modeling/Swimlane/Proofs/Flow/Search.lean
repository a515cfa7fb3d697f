import Mathlib.Data.List.Nodup
import Mathlib.Data.List.Perm.Subperm
import Swimlane.Flow.Cycle
import Swimlane.Proofs.Flow.Walk

/-!
# A search that finds nothing

A node is settled when every walk from it comes to an end. A depth-first search that closes no
cycle leaves settled nodes behind: when it backs out of a node, every edge from that node leads to a
settled one. The fuel of the search is no limit, since its path never meets a node twice.

- `Digraph.SettledBehind`: what holds of the nodes seen at every moment of such a search.
- `Digraph.visit_clears`: the search below one node keeps it, and settles that node.
- `Digraph.acyclic_of_closingEdge?_eq_none`: a graph in which nothing is found has no cycle.
-/

namespace Swimlane.Digraph

variable {V : Type} [DecidableEq V] {g : Digraph V}

/-- Every walk from the node comes to an end. -/
def Settled (g : Digraph V) (v : V) : Prop := Acc (fun w v => g.Edge v w) v

/-- Every node that was seen is on the current path or settled. -/
def SettledBehind (g : Digraph V) (path seen : List V) : Prop :=
  ∀ v ∈ seen, v ∈ path ∨ g.Settled v

/-- An edge that was found ends the search. -/
theorem foldl_step_closed (visit : List V → List V → V → Search V) (v : V) (path : List V)
    (e : V × V) (ws : List V) : ws.foldl (step visit v path) (.closed e) = .closed e := by
  induction ws with
  | nil => rfl
  | cons w ws ih => exact ih

theorem foldl_stepRoot_closed (e : V × V) (vs : List V) :
    vs.foldl g.stepRoot (.closed e) = .closed e := by
  induction vs with
  | nil => rfl
  | cons v vs ih => exact ih

/-- A step that closes no cycle leads to a node off the path, which was seen or is searched now. -/
theorem step_eq_clear {visit : List V → List V → V → Search V} {v w : V}
    {path seen seen' : List V} (h : step visit v path (.clear seen) w = .clear seen') :
    w ∉ path ∧ (w ∈ seen ∧ seen' = seen ∨ w ∉ seen ∧ visit path seen w = .clear seen') := by
  simp only [step] at h
  split at h
  · cases h
  · next hpath =>
    split at h
    · next hseen => cases h; exact ⟨hpath, .inl ⟨hseen, rfl⟩⟩
    · next hseen => exact ⟨hpath, .inr ⟨hseen, h⟩⟩

/-- What a search below a node has come to when it closed no cycle. -/
structure Clears (g : Digraph V) (path seen : List V) (v : V) (seen' : List V) : Prop where
  behind : g.SettledBehind path seen'
  kept : seen ⊆ seen'
  reached : v ∈ seen'

/-- The search along the edges of a node settles their ends, if the search below each of them
does. -/
theorem foldl_step_clears {visit : List V → List V → V → Search V} {v : V} {path : List V}
    (hvisit : ∀ seen w seen', g.Edge v w → w ∉ path → g.SettledBehind path seen →
      visit path seen w = .clear seen' → g.Clears path seen w seen')
    {ws : List V} (hws : ∀ w ∈ ws, g.Edge v w) {seen seen' : List V}
    (hseen : g.SettledBehind path seen)
    (h : ws.foldl (step visit v path) (.clear seen) = .clear seen') :
    g.SettledBehind path seen' ∧ seen ⊆ seen' ∧ ∀ w ∈ ws, g.Settled w := by
  induction ws generalizing seen with
  | nil => cases h; exact ⟨hseen, fun _ hx => hx, fun _ hw => nomatch hw⟩
  | cons w ws ih =>
    rw [List.foldl_cons] at h
    cases hs : step visit v path (.clear seen) w with
    | closed e =>
      rw [hs, foldl_step_closed] at h
      cases h
    | clear seen₁ =>
      rw [hs] at h
      obtain ⟨hpath, hw⟩ := step_eq_clear hs
      -- either way the end of the edge is seen now, and it is not on the path
      have hclears : g.Clears path seen w seen₁ := by
        rcases hw with ⟨hmem, rfl⟩ | ⟨-, hv⟩
        · exact ⟨hseen, fun _ hx => hx, hmem⟩
        · exact hvisit _ _ _ (hws w (.head _)) hpath hseen hv
      obtain ⟨hbehind, hkept, hsettled⟩ := ih (fun x hx => hws x (.tail _ hx)) hclears.behind h
      refine ⟨hbehind, fun x hx => hkept (hclears.kept hx), fun x hx => ?_⟩
      rcases List.mem_cons.1 hx with rfl | hx
      · exact (hclears.behind x hclears.reached).resolve_left hpath
      · exact hsettled x hx

/-- A search below a node that closes no cycle settles the node. -/
theorem visit_clears (fuel : Nat) {path seen seen' : List V} {v : V}
    (hfuel : g.nodes.length ≤ fuel + path.length) (hnodup : (v :: path).Nodup)
    (hnodes : v :: path ⊆ g.nodes) (hseen : g.SettledBehind path seen)
    (h : g.visit fuel path seen v = .clear seen') : g.Clears path seen v seen' := by
  induction fuel generalizing path seen v seen' with
  | zero =>
    -- a path without repetitions is no longer than the list of the nodes
    have hlength := (List.subperm_of_subset hnodup hnodes).length_le
    rw [List.length_cons] at hlength
    omega
  | succ fuel ih =>
    have hseen₀ : g.SettledBehind (v :: path) (v :: seen) := by
      intro x hx
      rcases List.mem_cons.1 hx with rfl | hx
      · exact .inl (.head _)
      · exact (hseen x hx).imp (.tail _) id
    have hvisit : ∀ seen w seen', g.Edge v w → w ∉ v :: path → g.SettledBehind (v :: path) seen →
        g.visit fuel (v :: path) seen w = .clear seen' → g.Clears (v :: path) seen w seen' := by
      intro s w s' hedge hpath hs hw
      exact ih (by rw [List.length_cons]; omega) (List.nodup_cons.2 ⟨hpath, hnodup⟩)
        (List.cons_subset.2 ⟨hedge.target_mem, hnodes⟩) hs hw
    obtain ⟨hbehind, hkept, hsettled⟩ :=
      foldl_step_clears hvisit (fun w hw => mem_next.1 hw) hseen₀ h
    have hv : g.Settled v := ⟨v, fun w hw => hsettled w (mem_next.2 hw)⟩
    refine ⟨fun x hx => ?_, fun x hx => hkept (.tail _ hx), hkept (.head _)⟩
    rcases hbehind x hx with hpath | hx
    · rcases List.mem_cons.1 hpath with rfl | hpath
      · exact .inr hv
      · exact .inl hpath
    · exact .inr hx

/-- The search from roots keeps what was seen settled, and settles the roots. -/
theorem foldl_stepRoot_settled {vs : List V} (hvs : vs ⊆ g.nodes) {seen seen' : List V}
    (hseen : g.SettledBehind [] seen) (h : vs.foldl g.stepRoot (.clear seen) = .clear seen') :
    g.SettledBehind [] seen' ∧ seen ⊆ seen' ∧ vs ⊆ seen' := by
  induction vs generalizing seen with
  | nil => cases h; exact ⟨hseen, fun _ hx => hx, fun _ hv => nomatch hv⟩
  | cons v vs ih =>
    rw [List.foldl_cons] at h
    cases hs : g.stepRoot (.clear seen) v with
    | closed e =>
      rw [hs, foldl_stepRoot_closed] at h
      cases h
    | clear seen₁ =>
      rw [hs] at h
      have hclears : g.Clears [] seen v seen₁ := by
        simp only [stepRoot] at hs
        split at hs
        · next hmem => cases hs; exact ⟨hseen, fun _ hx => hx, hmem⟩
        · exact visit_clears _ (by simp) (List.nodup_singleton v)
            (List.cons_subset.2 ⟨hvs (.head _), List.nil_subset _⟩) hseen hs
      obtain ⟨hbehind, hkept, hroots⟩ := ih (fun x hx => hvs (.tail _ hx)) hclears.behind h
      refine ⟨hbehind, fun x hx => hkept (hclears.kept hx), fun x hx => ?_⟩
      rcases List.mem_cons.1 hx with rfl | hx
      · exact hkept hclears.reached
      · exact hroots hx

/-- A graph in which the search finds no closing edge has no cycle. -/
theorem acyclic_of_closingEdge?_eq_none (h : g.closingEdge? = none) : g.Acyclic := by
  unfold closingEdge? at h
  split at h
  · cases h
  · next seen hseen =>
    obtain ⟨hbehind, -, hroots⟩ :=
      foldl_stepRoot_settled (fun _ hv => hv) (fun _ hv => absurd hv List.not_mem_nil) hseen
    exact acyclic_of_acc fun v hv => (hbehind v (hroots hv)).resolve_left List.not_mem_nil

end Swimlane.Digraph
