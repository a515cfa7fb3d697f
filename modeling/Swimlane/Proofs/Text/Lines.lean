import Mathlib.Data.List.Basic
import Mathlib.Data.List.Induction
import Swimlane.Text.Lines

/-!
# Texts cut at a line

Where a text is cut behind a line break, the lines of the two parts are the lines of the whole. The
one exception is a cut between a carriage return and its line feed, which leaves an empty line.

- `Text.IsBreak`, `Text.Unbroken`, `Text.StartsLine`: one line break, a text without any, and a text
  behind which a line starts.
- `Text.lines_append`, `Text.exists_lines_append`: the lines of a text that is cut where one starts.
- `Text.lines_append_isBreak`: a line break at the end adds no line, or an empty one.
- `Text.lines_unbroken_append`: characters that are no breaks join the line behind them.
-/

namespace Swimlane.Text

/-- A text that is one line break. -/
def IsBreak (s : List Char) : Prop := s = ['\r', '\n'] ∨ ∃ c, isLineBreak c = true ∧ s = [c]

/-- A text without line breaks. -/
def Unbroken (s : List Char) : Prop := ∀ c ∈ s, isLineBreak c = false

/-- A text behind which a line starts: it is empty, or ends with a line break. -/
def StartsLine (s : List Char) : Prop := ∀ c ∈ s.getLast?, isLineBreak c = true

theorem isBreak_newline : IsBreak ['\n'] := .inr ⟨'\n', by decide, rfl⟩

theorem unbroken_nil : Unbroken [] := fun _ h => nomatch h

theorem startsLine_nil : StartsLine [] := fun _ h => nomatch h

theorem IsBreak.startsLine_append {s : List Char} (h : IsBreak s) (before : List Char) :
    StartsLine (before ++ s) := by
  intro c hc
  rcases h with rfl | ⟨b, hb, rfl⟩
  · obtain rfl : '\n' = c := by simpa using hc
    decide
  · obtain rfl : b = c := by simpa using hc
    exact hb

theorem StartsLine.tail {c : Char} {s : List Char} (h : StartsLine (c :: s)) : StartsLine s := by
  intro b hb
  cases s with
  | nil => cases hb
  | cons d rest => exact h b (by rwa [List.getLast?_cons_cons])

/-- A text is cut where its last line starts. -/
theorem exists_startsLine_append (s : List Char) :
    ∃ before line, s = before ++ line ∧ StartsLine before ∧ Unbroken line := by
  -- from the end, where the last line is
  induction s using List.reverseRecOn with
  | nil => exact ⟨[], [], rfl, startsLine_nil, unbroken_nil⟩
  | append_singleton s c ih =>
    cases hc : isLineBreak c with
    | true =>
      have hbreak : IsBreak [c] := .inr ⟨c, hc, rfl⟩
      exact ⟨s ++ [c], [], (List.append_nil _).symm, hbreak.startsLine_append s, unbroken_nil⟩
    | false =>
      obtain ⟨before, line, rfl, hbefore, hline⟩ := ih
      refine ⟨before, line ++ [c], List.append_assoc .., hbefore, fun b hb => ?_⟩
      rcases List.mem_append.1 hb with hb | hb
      · exact hline b hb
      · rwa [List.mem_singleton.1 hb]

/-! ### Characters that are no breaks -/

/-- Puts a text in front of the first of some lines. -/
def joinFront (s : List Char) (ls : List (List Char)) : List (List Char) := s.foldr joinFirst ls

theorem joinFront_cons (s l : List Char) (ls : List (List Char)) :
    joinFront s (l :: ls) = (s ++ l) :: ls := by
  induction s with
  | nil => rfl
  | cons c s ih =>
    show joinFirst c (joinFront s (l :: ls)) = _
    rw [ih]
    rfl

theorem joinFront_nil {s : List Char} (h : s ≠ []) : joinFront s [] = [s] := by
  induction s with
  | nil => exact absurd rfl h
  | cons c s ih =>
    show joinFirst c (joinFront s []) = _
    by_cases hs : s = []
    · subst hs
      rfl
    · rw [ih hs]
      rfl

theorem joinFirst_append {c : Char} {ls : List (List Char)} (h : ls ≠ []) (ls' : List (List Char)) :
    joinFirst c (ls ++ ls') = joinFirst c ls ++ ls' := by
  obtain ⟨l, rest, rfl⟩ := List.exists_cons_of_ne_nil h
  rfl

/-- Characters that are no breaks join the line behind them. -/
theorem lines_unbroken_append {s : List Char} (h : Unbroken s) (rest : List Char) :
    lines (s ++ rest) = joinFront s (lines rest) := by
  induction s with
  | nil => rfl
  | cons c s ih =>
    have hs : Unbroken s := fun b hb => h b (.tail _ hb)
    rw [List.cons_append, lines_cons_of_not_isLineBreak _ (h c (.head _)), ih hs]
    rfl

/-- A text without breaks is one line, unless it is empty. -/
theorem lines_unbroken {s : List Char} (h : Unbroken s) (hne : s ≠ []) : lines s = [s] := by
  have hlines := lines_unbroken_append h []
  rwa [List.append_nil, lines, joinFront_nil hne] at hlines

/-! ### Line breaks -/

/-- A line break ends a line, unless it is the first half of one. -/
theorem lines_cons_of_isLineBreak {c : Char} {rest : List Char} (h : isLineBreak c = true)
    (hseam : c = '\r' → rest.head? ≠ some '\n') : lines (c :: rest) = [] :: lines rest := by
  rw [lines.eq_3]
  · simp [h]
  · rintro _ rfl rfl
    exact hseam rfl rfl

theorem lines_ne_nil {s : List Char} (h : s ≠ []) : lines s ≠ [] := by
  fun_cases lines s with
  | case1 => exact absurd rfl h
  | case2 rest => exact List.cons_ne_nil _ _
  | case3 c rest _ hc => exact List.cons_ne_nil _ _
  | case4 c rest _ hc =>
    cases lines rest with
    | nil => exact List.cons_ne_nil _ _
    | cons l ls => exact List.cons_ne_nil _ _

/-- Cut where a line starts, a text has the lines of its parts, if no break is cut in two. -/
theorem lines_append {a b : List Char} (ha : StartsLine a)
    (hseam : a.getLast? = some '\r' → b.head? ≠ some '\n') :
    lines (a ++ b) = lines a ++ lines b := by
  induction a using lines.induct with
  | case1 => rfl
  | case2 rest ih =>
    have hrest : rest.getLast? = some '\r' → b.head? ≠ some '\n' := fun hlast =>
      hseam (by simp [List.getLast?_cons, hlast])
    show [] :: lines (rest ++ b) = [] :: lines rest ++ lines b
    rw [ih ha.tail.tail hrest]
    rfl
  | case3 c rest hne hc ih =>
    -- behind a carriage return stands the rest of the first part, or the second one
    have hcons : c = '\r' → (rest ++ b).head? ≠ some '\n' := by
      rintro rfl
      cases rest with
      | nil => exact hseam rfl
      | cons d rest =>
        intro hd
        exact hne rest rfl (congrArg (· :: rest) (Option.some.inj hd))
    have hcons' : c = '\r' → rest.head? ≠ some '\n' := by
      intro h hd
      exact hcons h (by rw [List.head?_append, hd]; rfl)
    have hrest : rest.getLast? = some '\r' → b.head? ≠ some '\n' := fun hlast =>
      hseam (by simp [List.getLast?_cons, hlast])
    rw [List.cons_append, lines_cons_of_isLineBreak hc hcons, ih ha.tail hrest,
      lines_cons_of_isLineBreak hc hcons', List.cons_append]
  | case4 c rest hne hc ih =>
    have hc : isLineBreak c = false := by simpa using hc
    have hrest : rest ≠ [] := by
      rintro rfl
      rw [ha c rfl] at hc
      cases hc
    have hlast : (c :: rest).getLast? = rest.getLast? := by
      obtain ⟨d, rest, rfl⟩ := List.exists_cons_of_ne_nil hrest
      exact List.getLast?_cons_cons
    rw [hlast] at hseam
    rw [List.cons_append, lines_cons_of_not_isLineBreak _ hc, ih ha.tail hseam,
      joinFirst_append (lines_ne_nil hrest), lines_cons_of_not_isLineBreak _ hc]

/-- A line and the break that ends it. -/
theorem lines_unbroken_isBreak {line brk : List Char} (hline : Unbroken line) (hbrk : IsBreak brk) :
    lines (line ++ brk) = [line] := by
  have hempty : lines brk = [[]] := by
    rcases hbrk with rfl | ⟨c, hc, rfl⟩
    · rfl
    · exact lines_cons_of_isLineBreak hc fun _ h => nomatch h
  rw [lines_unbroken_append hline, hempty, joinFront_cons, List.append_nil]

/-- No line feed stands in front of a text without breaks, whatever follows, if there is anything to
it. -/
theorem Unbroken.head?_append_ne {line : List Char} (h : Unbroken line) {rest : List Char}
    (hrest : line = [] → rest.head? ≠ some '\n') : (line ++ rest).head? ≠ some '\n' := by
  cases line with
  | nil => exact hrest rfl
  | cons c line =>
    intro hhead
    obtain rfl : c = '\n' := Option.some.inj hhead
    exact absurd (h '\n' (.head _)) (by decide)

/-- A carriage return and its line feed end one line, like the carriage return alone. -/
theorem lines_append_return_newline (a : List Char) :
    lines (a ++ ['\r', '\n']) = lines (a ++ ['\r']) := by
  obtain ⟨before, line, rfl, hbefore, hline⟩ := exists_startsLine_append a
  have hreturn : IsBreak ['\r'] := .inr ⟨'\r', by decide, rfl⟩
  have hends {brk : List Char} (hbrk : IsBreak brk) (hhead : brk.head? ≠ some '\n') :
      lines (before ++ line ++ brk) = lines before ++ [line] := by
    rw [List.append_assoc, lines_append hbefore fun _ => hline.head?_append_ne fun _ => hhead,
      lines_unbroken_isBreak hline hbrk]
  rw [hends (.inl rfl) (by decide), hends hreturn (by decide)]

/-- Cut where a line starts, a text has the lines of its parts, up to the empty line that a line
feed leaves when it is cut off its carriage return. -/
theorem exists_lines_append {a : List Char} (ha : StartsLine a) (b : List Char) :
    ∃ ls, lines (a ++ b) = lines a ++ ls ∧ (lines b = ls ∨ lines b = [] :: ls) := by
  by_cases hseam : a.getLast? = some '\r' ∧ b.head? = some '\n'
  · obtain ⟨⟨a, rfl⟩, hb⟩ := hseam.imp_left List.getLast?_eq_some_iff.1
    obtain ⟨b, rfl⟩ := List.head?_eq_some_iff.1 hb
    refine ⟨lines b, ?_, .inr rfl⟩
    have hstart : StartsLine (a ++ ['\r', '\n']) := IsBreak.startsLine_append (.inl rfl) a
    have happend := lines_append hstart (b := b) fun h => by simp at h
    rw [lines_append_return_newline] at happend
    rw [← happend, List.append_assoc, List.append_assoc]
    rfl
  · exact ⟨lines b, lines_append ha fun h h' => hseam ⟨h, h'⟩, .inl rfl⟩

/-- A line break at the end adds no line, or an empty one. -/
theorem lines_append_isBreak (a : List Char) {brk : List Char} (hbrk : IsBreak brk) :
    lines (a ++ brk) = lines a ∨ lines (a ++ brk) = lines a ++ [[]] := by
  obtain ⟨before, line, rfl, hbefore, hline⟩ := exists_startsLine_append a
  by_cases hempty : line = []
  · subst hempty
    rw [List.append_nil]
    obtain ⟨ls, hls, heq⟩ := exists_lines_append hbefore brk
    have hone : lines brk = [[]] := lines_unbroken_isBreak unbroken_nil hbrk
    rw [hone] at heq
    rcases heq with rfl | heq
    · exact .inr hls
    · obtain rfl : [] = ls := (List.cons.inj heq).2
      exact .inl (by rw [hls, List.append_nil])
  · -- a line that is not empty is there without the break
    have hbare : line.head? ≠ some '\n' := by
      rw [← List.append_nil line]
      exact hline.head?_append_ne fun h => absurd h hempty
    left
    rw [List.append_assoc,
      lines_append hbefore fun _ => hline.head?_append_ne fun h => absurd h hempty,
      lines_unbroken_isBreak hline hbrk, lines_append hbefore fun _ => hbare,
      lines_unbroken hline hempty]

/-- The lines of a text have no breaks. -/
theorem unbroken_of_mem_lines {s line : List Char} (h : line ∈ lines s) : Unbroken line := by
  induction s using lines.induct generalizing line with
  | case1 => cases h
  | case2 rest ih =>
    rcases List.mem_cons.1 h with rfl | h
    · exact unbroken_nil
    · exact ih h
  | case3 c rest hne hc ih =>
    rw [lines.eq_3 _ _ hne, if_pos hc] at h
    rcases List.mem_cons.1 h with rfl | h
    · exact unbroken_nil
    · exact ih h
  | case4 c rest hne hc ih =>
    rw [lines.eq_3 _ _ hne, if_neg hc] at h
    have hc : isLineBreak c = false := by simpa using hc
    have hcons {l : List Char} (hl : Unbroken l) : Unbroken (c :: l) := by
      intro b hb
      rcases List.mem_cons.1 hb with rfl | hb
      · exact hc
      · exact hl b hb
    cases hlines : lines rest with
    | nil =>
      rw [hlines] at h
      rw [List.mem_singleton.1 h]
      exact hcons unbroken_nil
    | cons l ls =>
      rw [hlines] at h ih
      rcases List.mem_cons.1 h with rfl | h
      · exact hcons (ih (.head _))
      · exact ih (.tail _ h)

end Swimlane.Text
