import Swimlane.Text.Quoted
import Swimlane.Text.Blank
import Swimlane.Text.Digits

/-!
# Numerals

Whole numbers as people write them: digits of any script, blanks around them, one sign, and the
mark of the base in front of the digits.

- `Text.decimalValue?`: the value of a decimal digit of any script.
- `Numeral.Fault`: why a text is no whole number.
- `Numeral.whole`: the whole number that a text writes in a base.
-/

namespace Swimlane

namespace Text

/-- The zeros of all scripts; the other nine digits follow each of them. -/
def zeros : List Nat :=
  [0x30, 0x660, 0x6F0, 0x7C0, 0x966, 0x9E6, 0xA66, 0xAE6, 0xB66, 0xBE6, 0xC66, 0xCE6, 0xD66,
   0xDE6, 0xE50, 0xED0, 0xF20, 0x1040, 0x1090, 0x17E0, 0x1810, 0x1946, 0x19D0, 0x1A80, 0x1A90,
   0x1B50, 0x1BB0, 0x1C40, 0x1C50, 0xA620, 0xA8D0, 0xA900, 0xA9D0, 0xA9F0, 0xAA50, 0xABF0, 0xFF10,
   0x104A0, 0x10D30, 0x11066, 0x110F0, 0x11136, 0x111D0, 0x112F0, 0x11450, 0x114D0, 0x11650,
   0x116C0, 0x11730, 0x118E0, 0x11950, 0x11C50, 0x11D50, 0x11DA0, 0x16A60, 0x16AC0, 0x16B50,
   0x1D7CE, 0x1D7D8, 0x1D7E2, 0x1D7EC, 0x1D7F6, 0x1E140, 0x1E2F0, 0x1E950, 0x1FBF0]

/-- The value of a decimal digit of any script. -/
def decimalValue? (c : Char) : Option Nat :=
  (zeros.find? fun first => first ≤ c.toNat && c.toNat < first + 10).map (c.toNat - ·)

/-- The blanks around a number: all but the four information separators. -/
def isPadding (c : Char) : Bool := isBlank c && !(28 ≤ c.toNat && c.toNat ≤ 31)

/-- The text without the blanks around it. -/
def unpadded (s : List Char) : List Char :=
  ((s.dropWhile isPadding).reverse.dropWhile isPadding).reverse

/-- The text with all its decimal digits written in ASCII. -/
def asciiDigits (s : List Char) : List Char :=
  s.map fun c =>
    match decimalValue? c with
    | some n => Nat.digitChar n
    | none => c

end Text

namespace Numeral

/-- Why a text is no whole number. -/
inductive Fault where
  | notDigits (base : Nat) (text : Text.Raw)
  | tooManyDigits (count : Nat)
  deriving DecidableEq, Repr

/-- The greatest number of decimal digits that are read or written. -/
def digitLimit : Nat := 4300

/-- The wording of a fault. A long text is shown in part. -/
def Fault.message : Fault → String
  | notDigits base text =>
    "invalid literal for int() with base " ++ toString base ++ ": " ++
      String.ofList (text.quoted.toList.take 200)
  | tooManyDigits n =>
    "Exceeds the limit (" ++ toString digitLimit ++
      " digits) for integer string conversion: value has " ++ toString n ++
      " digits; use sys.set_int_max_str_digits() to increase the limit"

/-- The letters that stand for a base behind a zero. -/
def baseLetters : Nat → List Char
  | 2 => ['b', 'B']
  | 8 => ['o', 'O']
  | 16 => ['x', 'X']
  | _ => []

/-- The digits without the mark of the base in front of them. -/
def withoutMark (base : Nat) (s : List Char) : List Char :=
  match s with
  | '0' :: letter :: rest => if (baseLetters base).contains letter then rest else s
  | _ => s

/-- The number that digits write in a base. -/
def ofDigits (base : Nat) (digits : List Nat) : Nat := digits.foldl (fun n d => base * n + d) 0

/-- The whole number that a text writes in a base. Only bases that are no power of two have a
limit of digits. -/
def whole (base : Nat) (s : List Char) : Except Fault Int :=
  let (negative, body) := Text.signed (Text.unpadded (Text.asciiDigits s))
  let body := withoutMark base body
  let front := body.takeWhile fun c => (Text.digitValue? base c).isSome
  if base = 10 && digitLimit < front.length then .error (.tooManyDigits front.length)
  else if front.isEmpty || front.length < body.length then
    .error (.notDigits base (.whole (String.ofList s)))
  else
    let n : Int := ofDigits base (front.filterMap (Text.digitValue? base))
    .ok (if negative then -n else n)

end Numeral

end Swimlane
