import Swimlane.Diagram.Basic

/-!
# Groups of nodes

Some nodes of a list open a group, to which the nodes behind them belong up to the next one that
opens a group.

- `Node.groups`: the groups of a list.
- `Node.takeWhile_append_groups`, `Node.map_fst_groups`: nothing is lost, and who opens a group.
- `Node.groups_cons_append`: a group in front of others.
-/

namespace Swimlane.Node

variable {α : Type} {opens : Node α → Bool}

/-- The nodes that open a group, each with the nodes behind it up to the next one. -/
def groups (opens : Node α → Bool) : List (Node α) → List (Node α × List (Node α))
  | [] => []
  | n :: rest =>
    if opens n then (n, rest.takeWhile (!opens ·)) :: groups opens rest else groups opens rest

/-- What stands in front of the first group and the groups are all nodes. -/
theorem takeWhile_append_groups (opens : Node α → Bool) (nodes : List (Node α)) :
    nodes.takeWhile (!opens ·) ++ (groups opens nodes).flatMap (fun g => g.1 :: g.2) = nodes := by
  induction nodes with
  | nil => rfl
  | cons n rest ih =>
    cases hopens : opens n with
    | true =>
      rw [groups, if_pos hopens, List.takeWhile_cons_of_neg (by simp [hopens]), List.flatMap_cons,
        List.nil_append, List.cons_append, ih]
    | false =>
      rw [groups, if_neg (by simp [hopens]), List.takeWhile_cons_of_pos (by simp [hopens]),
        List.cons_append, ih]

theorem map_fst_groups (opens : Node α → Bool) (nodes : List (Node α)) :
    (groups opens nodes).map (·.1) = nodes.filter opens := by
  induction nodes with
  | nil => rfl
  | cons n rest ih =>
    cases hopens : opens n with
    | true => rw [groups, if_pos hopens, List.map_cons, ih, List.filter_cons_of_pos hopens]
    | false =>
      rw [groups, if_neg (by simp [hopens]), ih, List.filter_cons_of_neg (by simp [hopens])]

theorem groups_append {nodes : List (Node α)} (h : ∀ n ∈ nodes, opens n = false)
    (rest : List (Node α)) : groups opens (nodes ++ rest) = groups opens rest := by
  induction nodes with
  | nil => rfl
  | cons n nodes ih =>
    have hn := h n (.head _)
    rw [List.cons_append, groups, if_neg (by simp [hn]), ih fun m hm => h m (.tail _ hm)]

/-- A node with what belongs to it is a group, if another group or nothing comes next. -/
theorem groups_cons_append {n : Node α} (hn : opens n = true) {nodes : List (Node α)}
    (h : ∀ m ∈ nodes, opens m = false) {rest : List (Node α)}
    (hrest : ∀ m ∈ rest.head?, opens m = true) :
    groups opens (n :: (nodes ++ rest)) = (n, nodes) :: groups opens rest := by
  have hnodes : (nodes ++ rest).takeWhile (!opens ·) = nodes := by
    rw [List.takeWhile_append_of_pos fun m hm => by simp [h m hm]]
    cases rest with
    | nil => exact List.append_nil _
    | cons m rest =>
      rw [List.takeWhile_cons_of_neg (by simp [hrest m rfl]), List.append_nil]
  rw [groups, if_pos hn, hnodes, groups_append h]

end Swimlane.Node
