import Swimlane.Decimal.Style
import Swimlane.Text.Numeral
import Swimlane.Value.SetOrder

/-!
# Values as words

How a value is shown to a reader: a text as it is, a collection between its brackets with the texts
inside it in quotes, and a name for each of the three fixed values.

- `Value.words?`: the words for a value; there are none for a whole number with too many digits.
-/

namespace Swimlane.Value

/-- Doubles from `1e-4` to below `1e16` stand without an exponent, and an exponent has at least two
digits. -/
def shownNumbers : Decimal.Style := ⟨-4, 16, 2, "nan", "inf", "-inf"⟩

/-- One byte between the given quotes. -/
def quotedByte (mark : Char) (b : UInt8) : List Char :=
  let c := Char.ofNat b.toNat
  if 0x20 ≤ b.toNat && b.toNat < 0x7F || c = '\n' || c = '\r' || c = '\t' then
    Text.quotedChar mark c
  else Text.hexEscape b.toNat

/-- Bytes between quotes, with escapes. -/
def quotedBytes (bs : List UInt8) : String :=
  let mark := Text.quoteMark (bs.map fun b => Char.ofNat b.toNat)
  String.ofList ('b' :: mark :: bs.flatMap (quotedByte mark) ++ [mark])

/-- A whole number, unless it has too many digits. -/
def wholeWords? (n : Int) : Option String :=
  let ds := Nat.toDigits 10 n.natAbs
  if Numeral.digitLimit < ds.length then none
  else some ((if n < 0 then "-" else "") ++ String.ofList ds)

/-- Parts between brackets. -/
def enclosed (opening closing : String) (parts : List String) : String :=
  opening ++ String.intercalate ", " parts ++ closing

mutual
/-- The words for a value inside a collection. -/
def insideWords? : Value → Option String
  | null => some "None"
  | bool b => some (if b then "True" else "False")
  | int n => wholeWords? n
  | float x => some (shownNumbers.write x)
  | str s => some (Text.quoted s)
  | torn text => some (Text.Raw.torn text).quoted
  | bytes bs => some (quotedBytes bs)
  | date d => some d.spelled
  | moment m => some m.spelled
  | pair a b => do some (enclosed "(" ")" [← insideWords? a, ← insideWords? b])
  | list items => do some (enclosed "[" "]" (← itemsWords? items))
  | set items => do
    let parts := arranged (items.zip (← itemsWords? items))
    some (if parts.isEmpty then "set()" else enclosed "\x7b" "\x7d" parts)
  | map members => do some (enclosed "\x7b" "\x7d" (← membersWords? members))
  | listAgain => some "[...]"
  | mapAgain => some "\x7b...\x7d"

/-- The words for items. -/
def itemsWords? : List Value → Option (List String)
  | [] => some []
  | v :: rest => do some ((← insideWords? v) :: (← itemsWords? rest))

/-- The words for members. -/
def membersWords? : List (Value × Value) → Option (List String)
  | [] => some []
  | (k, v) :: rest => do
    some (((← insideWords? k) ++ ": " ++ (← insideWords? v)) :: (← membersWords? rest))
end

/-- The words for a value. -/
def words? : Value → Option Text.Raw
  | str s => some (.whole s)
  | torn text => some (.torn text)
  | date d => some (.whole d.text)
  | moment m => some (.whole m.text)
  | v => v.insideWords?.map .whole

end Swimlane.Value
