import Swimlane.Text.Blank
import Swimlane.Text.Word

/-!
# The grammar of a line

What stands after the keyword of a line. All texts here are trimmed, so their last character is
not blank.

- `Placement`: an element's identifier, its bracketed home, and the text after them.
- `Placement.qualified?`: that text as a label with an optional qualifier in parentheses.
- `Placement.plain?`: that text as a label on one line.
- `Arrow.flow?`: two identifiers joined by an arrow, with an optional bracketed label.
- `operands?`: the two sides of a single separator.
-/

namespace Swimlane.Notation

open Swimlane.Text

/-- The front of an element line, `id [home]`, the blanks after it, and the text after those. -/
structure Placement where
  id : List Char
  home : List Char
  gap : List Char
  text : List Char
  deriving DecidableEq, Repr

/-- What is read from the text after the home of an element. -/
structure Caption where
  label : List Char
  qualifier : Option (List Char)
  deriving DecidableEq, Repr

/-- Reads an identifier, blanks, a home in brackets, blanks and at least one more character. -/
def Placement.read? (s : List Char) : Option Placement :=
  let id := s.takeWhile isWord
  let afterId := s.dropWhile isWord
  match afterId.dropWhile isBlank with
  | '[' :: inner =>
    match inner.dropWhile (· ≠ ']') with
    | ']' :: afterHome =>
      let p : Placement :=
        ⟨id, inner.takeWhile (· ≠ ']'), afterHome.takeWhile isBlank, afterHome.dropWhile isBlank⟩
      if id = [] ∨ afterId.takeWhile isBlank = [] ∨ p.home = [] ∨ p.gap = [] ∨ p.text = [] then none
      else some p
    | _ => none
  | _ => none

/-- The inside of a group, given the text after its opening parenthesis: the first closing
parenthesis is the last character. -/
def closedGroup? (s : List Char) : Option (List Char) :=
  match s.dropWhile (· ≠ ')') with
  | [')'] => some (s.takeWhile (· ≠ ')'))
  | _ => none

/-- The text as a label and a qualifier. Without a parenthesis it is a label alone. Otherwise the
first parenthesis opens the qualifier, which ends the text. A text that is nothing but a qualifier
has an empty label, and needs at least two blanks in front of it. -/
def Placement.qualified? (p : Placement) : Option Caption :=
  let label := p.text.takeWhile (· ≠ '(')
  match p.text.dropWhile (· ≠ '(') with
  | [] => some ⟨label, none⟩
  | _ :: inner =>
    if label = [] ∧ p.gap.length < 2 then none
    else (closedGroup? inner).map fun qualifier => ⟨trim label, some qualifier⟩

/-- The text as a label without a qualifier, which must not run over several lines. -/
def Placement.plain? (p : Placement) : Option Caption :=
  if '\n' ∈ p.text then none else some ⟨p.text, none⟩

/-- The text with a qualifier if it has one, and as a plain label otherwise. -/
def Placement.caption? (p : Placement) : Option Caption :=
  match p.qualified? with
  | some c => some c
  | none => p.plain?

/-- The three arrows. -/
inductive Arrow where
  | single
  | double
  | dotted
  deriving DecidableEq, Repr

/-- How an arrow is written. -/
def Arrow.text : Arrow → List Char
  | single => ['-', '>']
  | double => ['-', '-', '>']
  | dotted => ['.', '.', '>']

/-- All arrows. -/
def Arrow.all : List Arrow := [single, double, dotted]

/-- The arrow at the front of a text. -/
def Arrow.read? : List Char → Option (Arrow × List Char)
  | '-' :: '>' :: rest => some (single, rest)
  | '-' :: '-' :: '>' :: rest => some (double, rest)
  | '.' :: '.' :: '>' :: rest => some (dotted, rest)
  | _ => none

/-- The parts of a flow line. -/
structure Flow where
  source : List Char
  arrow : Arrow
  target : List Char
  label : Option (List Char)
  deriving DecidableEq, Repr

/-- What may follow the second identifier of a flow: nothing, or a label in brackets. -/
def flowLabel? (s : List Char) : Option (Option (List Char)) :=
  match s with
  | [] => some none
  | _ =>
    match s.dropWhile isBlank with
    | '[' :: inner =>
      match inner.dropWhile (· ≠ ']') with
      | [']'] => some (some (inner.takeWhile (· ≠ ']')))
      | _ => none
    | _ => none

/-- Reads two identifiers joined by an arrow, with an optional bracketed label. -/
def Flow.read? (s : List Char) : Option Flow := do
  let source := s.takeWhile isWord
  let (arrow, rest) ← Arrow.read? ((s.dropWhile isWord).dropWhile isBlank)
  let rest := rest.dropWhile isBlank
  let target := rest.takeWhile isWord
  let label ← flowLabel? (rest.dropWhile isWord)
  if source = [] ∨ target = [] then none else some ⟨source, arrow, target, label⟩

/-- The two sides of the only separator of a text, each trimmed and not empty. -/
def operands? (separator : Char) (s : List Char) : Option (List Char × List Char) :=
  match s.dropWhile (· ≠ separator) with
  | [] => none
  | _ :: right =>
    let left := trim (s.takeWhile (· ≠ separator))
    let right' := trim right
    if separator ∈ right ∨ left = [] ∨ right' = [] then none else some (left, right')

end Swimlane.Notation
