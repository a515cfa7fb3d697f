import Mathlib.Data.List.TakeWhile
import Swimlane.Text.Blank

/-!
# Runs of characters

A run of characters of one kind ends where one of another kind stands, and a text up to a mark where
the mark stands.

- `Text.IsRun`: a text of characters of one kind.
- `Text.takeWhile_append_of_stop`, `Text.dropWhile_append_of_stop`, `Text.dropWhile_append_cons`,
  `Text.of_mem_head?_dropWhile`: a run, and what is behind it.
- `Text.eq_of_run`: a text begins with a run in one way only.
- `Text.takeWhile_append_mark`, `Text.dropWhile_append_mark`: a text up to a mark.
-/

namespace Swimlane.Text

/-- A text of characters of one kind, at least one. -/
structure IsRun (p : Char → Bool) (s : List Char) : Prop where
  ne : s ≠ []
  all : ∀ c ∈ s, p c = true

instance (p : Char → Bool) (s : List Char) : Decidable (IsRun p s) :=
  decidable_of_iff (s ≠ [] ∧ s.all p = true)
    ⟨fun ⟨hne, hall⟩ => ⟨hne, List.all_eq_true.1 hall⟩,
      fun h => ⟨h.ne, List.all_eq_true.2 h.all⟩⟩

/-- A run of characters ends in front of one of another kind. -/
theorem takeWhile_append_of_stop {p : Char → Bool} {run rest : List Char}
    (hrun : ∀ c ∈ run, p c = true) (hstop : ∀ c ∈ rest.head?, p c = false) :
    (run ++ rest).takeWhile p = run := by
  rw [List.takeWhile_append_of_pos hrun]
  cases rest with
  | nil => exact List.append_nil _
  | cons c rest => rw [List.takeWhile_cons_of_neg (by simp [hstop c rfl]), List.append_nil]

theorem dropWhile_append_of_stop {p : Char → Bool} {run rest : List Char}
    (hrun : ∀ c ∈ run, p c = true) (hstop : ∀ c ∈ rest.head?, p c = false) :
    (run ++ rest).dropWhile p = rest := by
  rw [List.dropWhile_append_of_pos hrun]
  cases rest with
  | nil => rfl
  | cons c rest => exact List.dropWhile_cons_of_neg (by simp [hstop c rfl])

/-- A text begins with a run of characters, in front of one of another kind, in one way only. -/
theorem eq_of_run {p : Char → Bool} {run run' rest rest' : List Char}
    (h : run ++ rest = run' ++ rest') (hrun : ∀ c ∈ run, p c = true)
    (hrun' : ∀ c ∈ run', p c = true) (hstop : ∀ c ∈ rest.head?, p c = false)
    (hstop' : ∀ c ∈ rest'.head?, p c = false) : run = run' ∧ rest = rest' := by
  have htake := congrArg (List.takeWhile p) h
  have hdrop := congrArg (List.dropWhile p) h
  rw [takeWhile_append_of_stop hrun hstop, takeWhile_append_of_stop hrun' hstop'] at htake
  rw [dropWhile_append_of_stop hrun hstop, dropWhile_append_of_stop hrun' hstop'] at hdrop
  exact ⟨htake, hdrop⟩

/-- What holds of all characters in front, and of the first one behind them, holds of the first. -/
theorem of_mem_head?_append {P : Char → Prop} {front rest : List Char} (hfront : ∀ c ∈ front, P c)
    (hrest : ∀ c ∈ rest.head?, P c) : ∀ c ∈ (front ++ rest).head?, P c := by
  cases front with
  | nil => exact hrest
  | cons d front =>
    rintro c ⟨⟩
    exact hfront d (.head _)

/-- A run at the front of a text ends before a character of another kind. -/
theorem dropWhile_append_cons {p : Char → Bool} {c : Char} (hc : p c = false)
    (s rest : List Char) : (s ++ c :: rest).dropWhile p = s.dropWhile p ++ c :: rest := by
  rw [List.dropWhile_append, List.dropWhile_cons_of_neg (by simp [hc])]
  split
  · rename_i hempty
    rw [List.isEmpty_iff.1 hempty, List.nil_append]
  · rfl

/-- What stands behind a run is of another kind. -/
theorem of_mem_head?_dropWhile {p : Char → Bool} {s : List Char} :
    ∀ c ∈ (s.dropWhile p).head?, p c = false := by
  intro c hc
  have hstop := List.head?_dropWhile_not p s
  rwa [Option.mem_def.1 hc] at hstop

/-- A text up to a mark that it does not contain. -/
theorem takeWhile_append_mark {mark : Char} {s : List Char} (h : mark ∉ s) (rest : List Char) :
    (s ++ mark :: rest).takeWhile (· ≠ mark) = s := by
  refine takeWhile_append_of_stop (fun c hc => decide_eq_true fun heq => h (heq ▸ hc)) ?_
  rintro c ⟨⟩
  simp

theorem dropWhile_append_mark {mark : Char} {s : List Char} (h : mark ∉ s) (rest : List Char) :
    (s ++ mark :: rest).dropWhile (· ≠ mark) = mark :: rest := by
  refine dropWhile_append_of_stop (fun c hc => decide_eq_true fun heq => h (heq ▸ hc)) ?_
  rintro c ⟨⟩
  simp

end Swimlane.Text
