import Swimlane.Decimal.Basic
import Swimlane.Text.Digits

/-!
# Reading doubles

Doubles as people write them: digits with a point and a power of ten, or words for what is not
finite.

- `Number.plainDouble?`: the double that a text without blanks and underscores writes.
-/

namespace Swimlane.Number

/-- The power of ten at the end of a number: nothing, or a letter and digits with a sign. -/
def power? (s : List Char) : Option Int :=
  match s with
  | [] => some 0
  | e :: rest =>
    let (negative, ds) := Text.signed rest
    if (e = 'e' || e = 'E') && !ds.isEmpty && ds.all Char.isDigit then
      let n : Int := Decimal.ofDigits ds
      some (if negative then -n else n)
    else none

/-- A number without its sign: digits with at most one point among or beside them, and a power of
ten. -/
def decimal? (s : List Char) : Option Decimal :=
  let whole := s.takeWhile Char.isDigit
  let rest := s.dropWhile Char.isDigit
  let (places, rest) := match rest with
    | '.' :: more => (more.takeWhile Char.isDigit, more.dropWhile Char.isDigit)
    | _ => ([], rest)
  if whole.isEmpty && places.isEmpty then none
  else (power? rest).map fun p => ⟨Decimal.ofDigits (whole ++ places), p - places.length⟩

/-- A magnitude in digits or in words. -/
def magnitude? (s : List Char) : Option Float :=
  let word := String.ofList (s.map Char.toLower)
  if word = "inf" ∨ word = "infinity" then some (1.0 / 0.0)
  else if word = "nan" then some (0.0 / 0.0)
  else (decimal? s).map Decimal.toFloat

/-- The double that a text without padding and underscores writes. -/
def plainDouble? (s : List Char) : Option Float :=
  let (negative, rest) := Text.signed s
  (magnitude? rest).map fun x => if negative then -x else x

end Swimlane.Number
