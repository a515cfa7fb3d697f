/-!
# Lines of a text

A text is split at every line break. A carriage return directly followed by a line feed is one
break, and a break at the very end does not open another line.

- `isLineBreak`: the characters that end a line.
- `lines`: the lines of a text, without their breaks.
- `lines_cons_of_not_isLineBreak`: an ordinary character joins the line that follows it.
-/

namespace Swimlane.Text

/-- Line feed, vertical tab, form feed, carriage return, the file, group and record separators,
next line, and the line and paragraph separators. -/
def isLineBreak (c : Char) : Bool :=
  let n := c.toNat
  (10 ≤ n && n ≤ 13) || (28 ≤ n && n ≤ 30) || n == 0x85 || n == 0x2028 || n == 0x2029

/-- Puts a character in front of the first line. -/
def joinFirst (c : Char) : List (List Char) → List (List Char)
  | [] => [[c]]
  | line :: rest => (c :: line) :: rest

/-- The lines of a text, without their breaks. -/
def lines : List Char → List (List Char)
  | [] => []
  | '\r' :: '\n' :: rest => [] :: lines rest
  | c :: rest => if isLineBreak c then [] :: lines rest else joinFirst c (lines rest)

/-- An ordinary character joins the line that follows it. -/
theorem lines_cons_of_not_isLineBreak {c : Char} (rest : List Char) (h : isLineBreak c = false) :
    lines (c :: rest) = joinFirst c (lines rest) := by
  rw [lines.eq_3]
  · simp [h]
  · rintro _ rfl
    exact absurd h (by decide)

end Swimlane.Text
