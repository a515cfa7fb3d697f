import Swimlane.Decimal.Reader
import Swimlane.Text.Numeral
import Swimlane.Text.Utf8
import Swimlane.Validation.Basic
import Swimlane.Value.Basic

/-!
# Numbers from lenient data

Settings come from places that know texts only. A number may therefore be given as a number, as a
truth value, or as a text that writes it, with blanks around it and single underscores between the
digits.

- `Number.double?`: the double that a text writes.
- `Number.whole`: the whole number that a text writes; places after the point have to be zeros.
- `Number.checkDouble`, `Number.checkWhole`: the checks of values.
-/

namespace Swimlane.Number

/-- The text without its underscores, which stand one by one between other characters. -/
def joined? (s : List Char) : Option (List Char) :=
  if s.head? = some '_' || s.getLast? = some '_' || !s.contains '_' ||
      (s.zip (s.drop 1)).contains ('_', '_') then none
  else some (s.filter (· ≠ '_'))

/-- The double that a text writes. -/
def double? (s : List Char) : Option Float :=
  (plainDouble? (Text.unpadded s)).or ((joined? s).bind plainDouble?)

/-- The text without the zeros at its front. It goes on with zeros and underscores up to another
character, or up to the one before a point; of zeros alone the last is kept. -/
def withoutZeros? (s : List Char) : Option (List Char) :=
  match s with
  | '0' :: rest =>
    match rest.dropWhile fun c => c = '0' || c = '_' with
    | [] => s.getLast?.map fun c => [c]
    | '.' :: more => some (((s.take (s.length - more.length - 1)).getLast?.toList) ++ '.' :: more)
    | more => some more
  | c :: _ => if c.isDigit then some s else none
  | [] => none

/-- The text without a point that zeros follow, at least one, and nothing else. -/
def withoutPlaces (s : List Char) : List Char :=
  match s.dropWhile (· ≠ '.') with
  | '.' :: places =>
    if !places.isEmpty && places.all (· = '0') then s.takeWhile (· ≠ '.') else s
  | _ => s

/-- The number of characters of the whole number at the front of a text: a minus, a digit other
than zero, and more digits. -/
def wholeLength (s : List Char) : Nat :=
  let sign := if s.head? = some '-' then 1 else 0
  let ds := (s.drop sign).takeWhile Char.isDigit
  if ds.isEmpty || ds.head? = some '0' then 0 else sign + ds.length

/-- The whole number that digits with an optional minus write, unless there are too many of them. A
zero stands alone. -/
def plainWhole? (s : List Char) : Option Int :=
  let (negative, ds) := match s with
    | '-' :: rest => (true, rest)
    | _ => (false, s)
  if ds.isEmpty || !ds.all Char.isDigit || Numeral.digitLimit < s.length ||
      ds.head? = some '0' && 1 < ds.length then none
  else
    let n : Int := Decimal.ofDigits ds
    some (if negative then -n else n)

/-- The text of a whole number without blanks, plus, leading zeros, underscores and places. -/
def cleaned? (s : List Char) : Option (List Char) := do
  let (negative, body) := Text.signed (Text.unpadded s)
  let body := withoutPlaces (← withoutZeros? body)
  let s := if negative then '-' :: body else body
  some ((joined? s).getD s)

/-- The whole number that a text writes. -/
def whole (s : List Char) : Checked Int :=
  if Numeral.digitLimit < wholeLength s then .fault .oversizedInteger
  else
    match (plainWhole? s).or ((cleaned? s).bind plainWhole?) with
    | some n => .good n
    | none => .fault .unreadableInteger

/-- The bound of the doubles that are taken for whole numbers. -/
def wholeBound : Nat := Nat.pow 2 63

/-- The whole number that a double is. -/
def ofDouble (x : Float) : Checked Int :=
  if x.isNaN || x.isInf then .fault .notFinite
  else
    match Value.exactDouble? x with
    | none => .fault .fractional
    | some n => if n.natAbs < wholeBound then .good n else .fault .oversizedInteger

/-- The text of bytes. -/
def textOf? (bytes : List UInt8) : Option String := (Text.Utf8.decode bytes).toOption

/-- A double. Whole numbers beyond every double are none. -/
def checkDouble : Value → Checked Float
  | .float x => .good x
  | .int n => let x := floatOfInt n; if x.isInf then .fault .notNumber else .good x
  | .bool b => .good (if b then 1 else 0)
  | .str s => ofText s.toList
  | .torn _ => .fault .notUnicode
  | .bytes bs =>
    match textOf? bs with
    | some s => ofText s.toList
    | none => .fault .unreadableNumber
  | _ => .fault .notNumber
where
  /-- The double that a text writes. -/
  ofText (s : List Char) : Checked Float :=
    match double? s with
    | some x => .good x
    | none => .fault .unreadableNumber

/-- A whole number. -/
def checkWhole : Value → Checked Int
  | .int n => .good n
  | .float x => ofDouble x
  | .bool b => .good (if b then 1 else 0)
  | .str s => whole s.toList
  | .torn _ => .fault .notUnicode
  | .bytes bs =>
    match textOf? bs with
    | some s => whole s.toList
    | none => .fault .unreadableInteger
  | _ => .fault .notInteger

end Swimlane.Number
