import Swimlane.Console.Markup

/-!
# Messages without faults

A message whose texts hold no brackets can be shown, whatever else they hold.

- `Console.Markup.piecesFrom_append`, `Console.Markup.piecesFrom_tag`: plain characters and tags,
  one after another.
- `Console.Markup.exists_read_styled`: a styled text in front of a plain one.
-/

namespace Swimlane.Console.Markup

theorem tag?_of_ne {c : Char} (h : c ≠ '[') (rest : List Char) : tag? (c :: rest) = none := by
  unfold tag?
  split
  · next heq => exact absurd (List.cons.inj heq).1 h
  · rfl

theorem tag?_of_not_mem {s : List Char} (h : '[' ∉ s) : tag? s = none := by
  cases s with
  | nil => rfl
  | cons c rest => exact tag?_of_ne (fun hc => h (hc ▸ .head _)) rest

/-- A text without brackets is a single piece. -/
theorem exists_piecesFrom (fuel position : Nat) (read : List Char) {s : List Char} (h : '[' ∉ s) :
    ∃ shown, piecesFrom fuel position read s = [.text shown] := by
  induction fuel generalizing position read s with
  | zero => exact ⟨_, rfl⟩
  | succ fuel ih =>
    cases s with
    | nil => exact ⟨_, rfl⟩
    | cons c rest =>
      have hafter : ∀ n, '[' ∉ (c :: rest).drop n := fun n hn => h (List.mem_of_mem_drop hn)
      rw [piecesFrom, tag?_of_not_mem (hafter _)]
      dsimp only
      split
      · exact ih _ _ fun hrest => h (.tail _ hrest)
      · exact ih _ _ (hafter _)

/-- Plain characters are read one after another, -/
theorem piecesFrom_append (fuel position : Nat) (read : List Char) {plain : List Char}
    (h : ∀ c ∈ plain, c ≠ '[' ∧ c ≠ '\\') (s : List Char) :
    piecesFrom (fuel + plain.length) position read (plain ++ s) =
      piecesFrom fuel (position + plain.length) (plain.reverse ++ read) s := by
  induction plain generalizing position read with
  | nil => rfl
  | cons c plain ih =>
    obtain ⟨hbracket, hmark⟩ := h c (.head _)
    have hmarks : (c :: (plain ++ s)).takeWhile (· = '\\') = [] :=
      List.takeWhile_cons_of_neg (by simpa using hmark)
    have hnext := ih (position + 1) (c :: read) fun d hd => h d (.tail _ hd)
    rw [List.cons_append, List.length_cons, ← Nat.add_assoc, piecesFrom, hmarks, List.length_nil,
      List.drop_zero, tag?_of_ne hbracket]
    dsimp only
    rw [List.isEmpty_nil, if_pos rfl, hnext, List.reverse_cons, List.append_assoc,
      Nat.add_right_comm]
    rfl

/-- and a tag is read as a whole. -/
theorem piecesFrom_tag (fuel position : Nat) (read : List Char) {c : Char} {inner : List Char}
    (hbegins : beginsTag c = true) (hinner : ∀ d ∈ inner, d ≠ '[' ∧ d ≠ ']') (s : List Char) :
    piecesFrom (fuel + 1) position read ('[' :: c :: inner ++ ']' :: s) =
      .text read.reverse :: .tag position (c :: inner) ::
        piecesFrom fuel (position + inner.length + 3) [] s := by
  have htaken : (inner ++ ']' :: s).takeWhile (fun c => c ≠ '[' && c ≠ ']') = inner := by
    rw [List.takeWhile_append_of_pos fun d hd => by simpa using hinner d hd]
    simp
  have htag : tag? ('[' :: c :: (inner ++ ']' :: s)) = some (c :: inner) := by
    rw [tag?, htaken]
    simp [hbegins]
  have hmarks : ('[' :: c :: (inner ++ ']' :: s)).takeWhile (· = '\\') = [] := rfl
  rw [List.cons_append, List.cons_append, piecesFrom, hmarks, List.length_nil, List.drop_zero,
    htag]
  simp [Nat.add_assoc]

/-- A tag that closes nothing opens a style. -/
theorem turn_of_ne {c : Char} (h : c ≠ '/') (opened : List String) (position : Nat)
    (inner : List Char) : ∃ style, turn opened position (c :: inner) = .ok (style :: opened) := by
  unfold turn
  dsimp only
  split
  · next closed hname =>
    by_cases hc : c = '='
    · rw [List.takeWhile_cons_of_neg (by simpa using hc)] at hname
      cases hname
    · rw [List.takeWhile_cons_of_pos (by simpa using hc)] at hname
      exact absurd (List.cons.inj hname).1 h
  · exact ⟨_, rfl⟩

/-- **A message without faults**: a styled text, and behind it a text without brackets. -/
theorem exists_read_styled {c : Char} {style word s : List Char} {message : String}
    (hmessage : message.toList =
      '[' :: c :: style ++ ']' :: (word ++ ('[' :: '/' :: [] ++ ']' :: s)))
    (hbegins : beginsTag c = true) (hc : c ≠ '/') (hstyle : ∀ d ∈ style, d ≠ '[' ∧ d ≠ ']')
    (hword : ∀ d ∈ word, d ≠ '[' ∧ d ≠ '\\') (hs : '[' ∉ s) :
    ∃ shown, read message = .ok shown := by
  obtain ⟨fuel, hfuel⟩ : ∃ fuel, message.toList.length + 1 = fuel + 1 + word.length + 1 := by
    refine ⟨style.length + s.length + 5, ?_⟩
    rw [hmessage]
    simp only [List.length_append, List.length_cons, List.length_nil]
    omega
  obtain ⟨opened, hopened⟩ := turn_of_ne hc [] 0 style
  obtain ⟨shown, hshown⟩ := exists_piecesFrom fuel (0 + style.length + 3 + word.length + 3) [] hs
  rw [read, pieces, hfuel, hmessage, piecesFrom_tag _ _ _ hbegins hstyle,
    piecesFrom_append _ _ _ hword, piecesFrom_tag _ _ _ rfl (List.forall_mem_nil _),
    List.length_nil, Nat.add_zero, hshown]
  simp only [readPieces, hopened]
  exact ⟨_, rfl⟩

end Swimlane.Console.Markup
