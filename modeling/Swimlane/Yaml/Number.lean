import Swimlane.Decimal.Reader
import Swimlane.Text.Case
import Swimlane.Text.Split
import Swimlane.Yaml.Fault

/-!
# Numbers of YAML

Numbers may hold underscores, and may be written in base 2, 8, 10, 16 or 60.

- `Yaml.whole`: the whole number that a text writes.
- `Yaml.double`: the double that a text writes.
-/

namespace Swimlane.Yaml

/-- A whole number in a base. -/
def wholeIn (base : Nat) (s : List Char) : Except Fault Int :=
  (Numeral.whole base s).mapError .numeral

/-- The whole number that parts write in base sixty. -/
def sexagesimal (parts : List Int) : Int := parts.foldl (fun n part => 60 * n + part) 0

/-- A whole number without underscores and sign. -/
def unsignedWhole (s : List Char) : Except Fault Int :=
  match s with
  | [] => .error .noDigits
  | '0' :: 'b' :: rest => wholeIn 2 rest
  | '0' :: 'x' :: rest => wholeIn 16 rest
  | '0' :: _ => wholeIn 8 s
  | _ =>
    match Text.splitAt ':' s with
    | [_] => wholeIn 10 s
    | parts => (parts.mapM (wholeIn 10)).map sexagesimal

/-- The whole number that a text writes. -/
def whole (s : List Char) : Except Fault Int :=
  let (negative, rest) := Text.signed (s.filter (· ≠ '_'))
  (unsignedWhole rest).map fun n => if negative then -n else n

/-- A double without underscores, in small letters. -/
def plainDouble (s : List Char) : Except Fault Float :=
  match Number.plainDouble? (Text.unpadded (Text.asciiDigits s)) with
  | some x => .ok x
  | none => .error (.notDouble (.whole (String.ofList s)))

/-- The double that parts write in base sixty, the last part first, added up from it on. -/
def sixtieths : Nat → Float → List Float → Except Fault Float
  | _, sum, [] => .ok sum
  | unit, sum, x :: rest =>
    let factor := floatOfInt unit
    if factor.isInf then .error .tooLarge else sixtieths (unit * 60) (sum + x * factor) rest

/-- The double that a text writes. -/
def double (s : List Char) : Except Fault Float :=
  let small := Text.lower (s.filter (· ≠ '_'))
  match small with
  | [] => .error .noDigits
  | _ =>
    let (negative, rest) := Text.signed small
    let magnitude : Except Fault Float :=
      if rest = ".inf".toList then .ok (1.0 / 0.0)
      else if rest = ".nan".toList then .ok (0.0 / 0.0)
      else
        match Text.splitAt ':' rest with
        | [_] => plainDouble rest
        | parts => do sixtieths 1 0.0 (← parts.mapM plainDouble).reverse
    magnitude.map fun x => if negative then -x else x

end Swimlane.Yaml
