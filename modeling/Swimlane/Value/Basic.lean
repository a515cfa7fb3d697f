import Swimlane.Calendar
import Swimlane.Decimal.Shortest
import Swimlane.Json.Raw

/-!
# Values

The values that settings are given as. They contain those of JSON, and more: keys need not be
texts, and there are bytes, sets, pairs, dates and moments.

- `Value`: a value.
- `Value.sameKey`: whether two scalars are one key.
- `Value.ofRaw`: a JSON value from outside.
- `Value.isBlank`: the values that count as nothing.
-/

namespace Swimlane

/-- A value. -/
inductive Value where
  | null
  | bool (b : Bool)
  | int (n : Int)
  | float (x : Float)
  | str (s : String)
  | torn (text : Text.Torn)
  | bytes (bs : List UInt8)
  | date (d : Date)
  | moment (m : Moment)
  | pair (first second : Value)
  | list (items : List Value)
  | set (items : List Value)
  | map (members : List (Value × Value))
  /-- The list that this is an item of, or one around it. -/
  | listAgain
  /-- The mapping that this is a member of, or one around it. -/
  | mapAgain
  deriving Inhabited

namespace Value

/-- The name of the kind of a value, as messages use it. -/
def kindName : Value → String
  | null => "NoneType"
  | bool _ => "bool"
  | int _ => "int"
  | float _ => "float"
  | str _ | torn _ => "str"
  | bytes _ => "bytes"
  | date _ => "datetime.date"
  | moment _ => "datetime.datetime"
  | pair _ _ => "tuple"
  | list _ => "list"
  | listAgain => "list"
  | set _ => "set"
  | map _ => "dict"
  | mapAgain => "dict"

/-- The double that a whole number is, if it is one. -/
def exactDouble? (x : Float) : Option Int :=
  if x.isNaN || x.isInf then none
  else
    let b := Binary.ofBits (x.toBits.toNat % Nat.pow 2 63)
    let (num, den) := Binary.ratio b.mantissa b.exponent
    if num % den = 0 then
      let n : Int := num / den
      some (if x < 0.0 then -n else n)
    else none

/-- The whole number that a number or truth value is. -/
def whole? : Value → Option Int
  | bool b => some (if b then 1 else 0)
  | int n => some n
  | float x => exactDouble? x
  | _ => none

/-- Whether two values are one key: numbers are compared by their amount, and moments with a zone
by the instant. -/
def sameKey : Value → Value → Bool
  | null, null => true
  | str a, str b => a = b
  | torn a, torn b => a = b
  | bytes a, bytes b => a = b
  | date a, date b => a = b
  | moment a, moment b => a.instant = b.instant
  | pair a b, pair c d => sameKey a c && sameKey b d
  | a, b =>
    match a.whole?, b.whole? with
    | some m, some n => m = n
    | none, none =>
      match a, b with
      | float x, float y => x == y || x.isNaN && y.isNaN
      | _, _ => false
    | _, _ => false

/-- Enters a member; a key that is already there keeps its place and its spelling. -/
def put (key value : Value) : List (Value × Value) → List (Value × Value)
  | [] => [(key, value)]
  | (k, v) :: rest => if k.sameKey key then (k, value) :: rest else (k, v) :: put key value rest

/-- Enters members one after another. -/
def ofPairs (pairs : List (Value × Value)) : List (Value × Value) :=
  pairs.foldl (fun members p => put p.1 p.2 members) []

/-- The name of the first part of a value that cannot be a key, if there is any. -/
def unkeyable? : Value → Option String
  | pair a b => (unkeyable? a).or (unkeyable? b)
  | list _ | listAgain => some "list"
  | set _ => some "set"
  | map _ | mapAgain => some "dict"
  | _ => none

/-- A text from outside. -/
def ofText : Text.Raw → Value
  | .whole s => str s
  | .torn text => torn text

mutual
/-- A JSON value from outside. -/
def ofRaw : Json.Raw → Value
  | .null => null
  | .bool b => bool b
  | .int n => int n
  | .float x => float x
  | .text t => ofText t
  | .arr items => list (ofRawItems items)
  | .obj members => map (ofRawMembers members)

/-- The items of a JSON list from outside. -/
def ofRawItems : List Json.Raw → List Value
  | [] => []
  | v :: rest => ofRaw v :: ofRawItems rest

/-- The members of a JSON object from outside. -/
def ofRawMembers : List (Text.Raw × Json.Raw) → List (Value × Value)
  | [] => []
  | (k, v) :: rest => (ofText k, ofRaw v) :: ofRawMembers rest
end

/-- Null, falsehood, zero, and what is empty. -/
def isBlank : Value → Bool
  | null => true
  | bool b => !b
  | int n => n = 0
  | float x => x == 0.0
  | str s => s.isEmpty
  | bytes bs => bs.isEmpty
  | list items => items.isEmpty
  | set items => items.isEmpty
  | map members => members.isEmpty
  | _ => false

/-- The member of a mapping with a text as its key. -/
def field? (members : List (Value × Value)) (key : String) : Option Value :=
  (members.find? fun p => p.1.sameKey (.str key)).map (·.2)

end Value

end Swimlane
