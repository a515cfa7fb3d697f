/-!
# Blank characters

The characters that separate words and are trimmed from the ends of a text.

- `isBlank`: tab, the line breaks, the four information separators, space, and the Unicode spaces.
- `trim`: a text without the blanks at its two ends.
- `trimEnd_append_of_not_isBlank`, `dropBlanks_of_not_isBlank`: trimming stops at a character that
  is not blank.
-/

namespace Swimlane.Text

/-- Tab to carriage return, U+001C to space, next line, and the spaces and separators of Unicode. -/
def isBlank (c : Char) : Bool :=
  let n := c.toNat
  (9 ≤ n && n ≤ 13) || (28 ≤ n && n ≤ 32) || n == 0x85 || n == 0xA0 || n == 0x1680 ||
    (0x2000 ≤ n && n ≤ 0x200A) || n == 0x2028 || n == 0x2029 || n == 0x202F || n == 0x205F ||
    n == 0x3000

/-- The text without its leading blanks. -/
def dropBlanks (s : List Char) : List Char := s.dropWhile isBlank

/-- The text without its trailing blanks. -/
def dropTrailingBlanks (s : List Char) : List Char := (s.reverse.dropWhile isBlank).reverse

/-- The text without the blanks at its two ends. -/
def trim (s : List Char) : List Char := dropTrailingBlanks (dropBlanks s)

/-- The string without the blanks at its two ends. -/
def trimmed (s : String) : String := String.ofList (trim s.toList)

/-- Trimming at the front stops at a character that is not blank. -/
theorem dropBlanks_cons_of_not_isBlank {c : Char} (s : List Char) (h : isBlank c = false) :
    dropBlanks (c :: s) = c :: s := by
  simp [dropBlanks, h]

/-- Trimming at the end stops at a character that is not blank. -/
theorem dropTrailingBlanks_concat_of_not_isBlank {c : Char} (s : List Char)
    (h : isBlank c = false) : dropTrailingBlanks (s ++ [c]) = s ++ [c] := by
  simp [dropTrailingBlanks, h]

end Swimlane.Text
