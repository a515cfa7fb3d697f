import Swimlane.Decimal.Basic
import Swimlane.Json.Raw
import Swimlane.Table
import Swimlane.Text.Digits
import Swimlane.Text.Numeral

/-!
# Reading JSON

A reader of one JSON text that says where it stopped. The words `NaN`, `Infinity` and `-Infinity`
are numbers too, a later member of an object replaces an earlier one with the same key, and control
characters inside a string are refused.

- `Json.ReadError`: why a text was refused, and how many characters were left from there.
- `Json.read`: the value of a whole text, which must not be nested too deep.
- `Json.ReadError.offset`: the place of the error, counted in characters from the start.
-/

namespace Swimlane.Json

/-- Why a text is not JSON. -/
inductive ReadFault where
  | expectedValue
  | expectedKey
  | expectedColon
  | expectedComma
  | unterminatedString
  | controlCharacter
  | badEscape
  | extraData
  | tooManyDigits
  | deepObject
  | deepArray
  deriving DecidableEq, Repr

namespace ReadFault

/-- Whether a text is refused only because it is nested too deep. -/
def isDepth (f : ReadFault) : Bool := f = deepObject || f = deepArray

/-- Whether a text is refused although it may well be JSON. -/
def isLimit (f : ReadFault) : Bool := f.isDepth || f = tooManyDigits

/-- The wording of a fault. -/
def message : ReadFault → String
  | deepObject =>
    "maximum recursion depth exceeded while decoding a JSON object from a unicode string"
  | deepArray =>
    "maximum recursion depth exceeded while decoding a JSON array from a unicode string"
  | _ => "not JSON"

end ReadFault

/-- How deep objects and lists may stand inside one another. -/
def nestingLimit : Nat := 960

/-- A fault and the number of characters from its place to the end of the text. -/
structure ReadError where
  fault : ReadFault
  left : Nat
  deriving DecidableEq, Repr

/-- The place of an error in a text, counted from its start. -/
def ReadError.offset (e : ReadError) (text : List Char) : Nat := text.length - e.left

/-- What a part of the text says, with the text after it. -/
abbrev Reading (α : Type) := Except ReadError (α × List Char)

/-- The blanks that may stand between the tokens. -/
def isSpace (c : Char) : Bool := c = ' ' || c = '\t' || c = '\n' || c = '\r'

/-- The text without its leading blanks. -/
def skipSpace (s : List Char) : List Char := s.dropWhile isSpace

/-- The code unit written by four hexadecimal digits that do not end the text. -/
def hexUnit? : List Char → Option (Nat × List Char)
  | a :: b :: c :: d :: e :: rest => do
    let high := 16 * (← Text.digitValue? 16 a) + (← Text.digitValue? 16 b)
    let low := 16 * (← Text.digitValue? 16 c) + (← Text.digitValue? 16 d)
    some (256 * high + low, e :: rest)
  | _ => none

/-- The code point of a code unit, joined with the low surrogate that follows a high one. -/
def joinedUnit (n : Nat) (rest : List Char) : Nat × List Char :=
  if 0xD800 ≤ n ∧ n ≤ 0xDBFF then
    match rest with
    | '\\' :: 'u' :: more =>
      match hexUnit? more with
      | some (low, more) =>
        if 0xDC00 ≤ low ∧ low ≤ 0xDFFF then
          (0x10000 + (n - 0xD800) * 0x400 + (low - 0xDC00), more)
        else (n, rest)
      | none => (n, rest)
    | _ => (n, rest)
  else (n, rest)

/-- The character that a one-letter escape stands for. -/
def simpleEscape? : Char → Option Char
  | '"' => some '"'
  | '\\' => some '\\'
  | '/' => some '/'
  | 'b' => some '\x08'
  | 'f' => some '\x0c'
  | 'n' => some '\n'
  | 'r' => some '\r'
  | 't' => some '\t'
  | _ => none

/-- The string after its opening quote, `start` characters from the end of the text, and after the
pieces already read, which stand backwards. The fuel exceeds the number of characters. -/
def stringBody (start : Nat) : Nat → List Text.Piece → List Char → Reading Text.Raw
  | 0, _, _ => .error ⟨.unterminatedString, start⟩
  | _ + 1, _, [] => .error ⟨.unterminatedString, start⟩
  | _ + 1, read, '"' :: rest => .ok (.ofPieces read.reverse, rest)
  | fuel + 1, read, '\\' :: rest =>
    match rest with
    | [] => .error ⟨.unterminatedString, start⟩
    | 'u' :: digits =>
      match hexUnit? digits with
      | none => .error ⟨.badEscape, rest.length⟩
      | some (n, more) =>
        let (n, more) := joinedUnit n more
        stringBody start fuel (.ofCode n :: read) more
    | e :: more =>
      match simpleEscape? e with
      | none => .error ⟨.badEscape, rest.length + 1⟩
      | some c => stringBody start fuel (.whole c :: read) more
  | fuel + 1, read, c :: rest =>
    if c.toNat < 0x20 then .error ⟨.controlCharacter, rest.length + 1⟩
    else stringBody start fuel (.whole c :: read) rest

/-- The string that begins with the quote in front of `rest`. -/
def stringAfterQuote (rest : List Char) : Reading Text.Raw :=
  stringBody (rest.length + 1) (rest.length + 1) [] rest

/-- The fraction of a number: a point and at least one digit. -/
def fraction (s : List Char) : List Char × List Char :=
  match s with
  | '.' :: more =>
    let digits := more.takeWhile Char.isDigit
    if digits.isEmpty then ([], s) else (digits, more.dropWhile Char.isDigit)
  | _ => ([], s)

/-- The exponent of a number: a letter, an optional sign and at least one digit. -/
def exponent (s : List Char) : Option Int × List Char :=
  match s with
  | e :: more =>
    if e = 'e' || e = 'E' then
      let (negative, more) := match more with
        | '-' :: m => (true, m)
        | '+' :: m => (false, m)
        | m => (false, m)
      let digits := more.takeWhile Char.isDigit
      if digits.isEmpty then (none, s)
      else
        let n : Int := Decimal.ofDigits digits
        (some (if negative then -n else n), more.dropWhile Char.isDigit)
    else (none, s)
  | [] => (none, s)

/-- The number at the front of a text, with its sign already read. Whole numbers must not have too
many digits. -/
def unsignedNumber? (negative : Bool) (s : List Char) :
    Option (Except ReadError (Raw × List Char)) :=
  let whole := match s with
    | '0' :: _ => ['0']
    | _ => s.takeWhile Char.isDigit
  if whole.isEmpty then none
  else
    let rest := s.drop whole.length
    let (places, rest) := fraction rest
    let (power, rest) := exponent rest
    if places.isEmpty && power.isNone then
      if Numeral.digitLimit < whole.length then some (.error ⟨.tooManyDigits, s.length⟩)
      else
        let n : Int := Decimal.ofDigits whole
        some (.ok (.int (if negative then -n else n), rest))
    else
      let x := Decimal.toFloat
        ⟨Decimal.ofDigits (whole ++ places), power.getD 0 - places.length⟩
      some (.ok (.float (if negative then -x else x), rest))

/-- The number at the front of a text. -/
def number? : List Char → Option (Except ReadError (Raw × List Char))
  | '-' :: rest => unsignedNumber? true rest
  | s => unsignedNumber? false s

/-- The words that stand for values. -/
def words : List (List Char × Raw) :=
  [("null".toList, .null), ("true".toList, .bool true), ("false".toList, .bool false),
   ("NaN".toList, .float (0.0 / 0.0)), ("Infinity".toList, .float (1.0 / 0.0)),
   ("-Infinity".toList, .float (-1.0 / 0.0))]

/-- The word at the front of a text. -/
def word? (s : List Char) : Option (Raw × List Char) :=
  (words.find? fun w => w.1.isPrefixOf s).map fun w => (w.2, s.drop w.1.length)

mutual
/-- The value at the front of a text, inside which objects and lists may stand up to a depth; the
fuel exceeds twice the number of characters. -/
def value : Nat → Nat → List Char → Reading Raw
  | 0, _, s => .error ⟨.expectedValue, s.length⟩
  | fuel + 1, depth, s =>
    match s with
    | '"' :: rest => (stringAfterQuote rest).map fun (t, rest) => (.text t, rest)
    | '\x7b' :: rest =>
      if depth = 0 then .error ⟨.deepObject, s.length⟩
      else
        match skipSpace rest with
        | '\x7d' :: rest => .ok (.obj [], rest)
        | rest => members fuel (depth - 1) [] rest
    | '[' :: rest =>
      if depth = 0 then .error ⟨.deepArray, s.length⟩
      else
        match skipSpace rest with
        | ']' :: rest => .ok (.arr [], rest)
        | rest => items fuel (depth - 1) [] rest
    | _ =>
      match word? s with
      | some r => .ok r
      | none => (number? s).getD (.error ⟨.expectedValue, s.length⟩)

/-- The rest of an object from a key on, after the members already read. -/
def members : Nat → Nat → List (Text.Raw × Raw) → List Char → Except ReadError (Raw × List Char)
  | 0, _, _, s => .error ⟨.expectedKey, s.length⟩
  | fuel + 1, depth, done, s =>
    match s with
    | '"' :: rest => do
      let (key, rest) ← stringAfterQuote rest
      match skipSpace rest with
      | ':' :: rest =>
        let (v, rest) ← value fuel depth (skipSpace rest)
        let done := Table.put key v done
        match skipSpace rest with
        | '\x7d' :: rest => .ok (.obj done, rest)
        | ',' :: rest => members fuel depth done (skipSpace rest)
        | rest => .error ⟨.expectedComma, rest.length⟩
      | rest => .error ⟨.expectedColon, rest.length⟩
    | _ => .error ⟨.expectedKey, s.length⟩

/-- The rest of a list from an item on, after the items already read, which stand backwards. -/
def items : Nat → Nat → List Raw → List Char → Except ReadError (Raw × List Char)
  | 0, _, _, s => .error ⟨.expectedValue, s.length⟩
  | fuel + 1, depth, done, s => do
    let (v, rest) ← value fuel depth s
    match skipSpace rest with
    | ']' :: rest => .ok (.arr (v :: done).reverse, rest)
    | ',' :: rest => items fuel depth (v :: done) (skipSpace rest)
    | rest => .error ⟨.expectedComma, rest.length⟩
end

/-- The value of a whole text, in which objects and lists may stand up to a depth. -/
def readWithin (depth : Nat) (text : List Char) : Except ReadError Raw := do
  let (v, rest) ← value (2 * text.length + 2) depth (skipSpace text)
  match skipSpace rest with
  | [] => .ok v
  | rest => .error ⟨.extraData, rest.length⟩

/-- The value of a whole text. -/
def read (text : List Char) : Except ReadError Raw := readWithin nestingLimit text

end Swimlane.Json
