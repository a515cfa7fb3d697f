import Swimlane.Yaml.Kind
import Swimlane.Yaml.Fault

/-!
# Dates and moments of YAML

- `Yaml.dateOrMoment`: the date that a text writes, or the moment if there is a time with it.
-/

namespace Swimlane.Yaml

/-- The number that decimal digits write. -/
def digits (s : List Char) : Nat := Numeral.ofDigits 10 (s.filterMap (Text.digitValue? 10))

/-- Places of seconds as microseconds; further places are cut off. -/
def microseconds (places : List Char) : Nat :=
  digits ((places ++ List.replicate 6 '0').take 6)

/-- The zone that a text writes: none, that of the zero meridian, or a distance from it. -/
def zone? (s : List Char) : Option Int :=
  match s.dropWhile fun c => c = ' ' || c = '\t' with
  | [] => none
  | ['Z'] => some 0
  | sign :: rest =>
    let parts := (Text.splitAt ':' rest).map digits
    let seconds : Int := 3600 * parts.headD 0 + 60 * (parts.drop 1).headD 0
    some (if sign = '-' then -seconds else seconds)

/-- A date and a time in their written forms. -/
def moment (date : List Nat) (time : List Char) : Except Calendar.Fault Moment :=
  let parts := Text.splitAt ':' time
  let rest := [':'].intercalate (parts.drop 2)
  let (places, zone) := match rest.drop 2 with
    | '.' :: more => (more.takeWhile Char.isDigit, more.dropWhile Char.isDigit)
    | more => ([], more)
  Moment.of (date.headD 0) ((date.drop 1).headD 0) ((date.drop 2).headD 0) (digits (parts.headD []))
    (digits ((parts.drop 1).headD [])) (digits (rest.take 2)) (microseconds places) (zone? zone)

/-- The date that a text writes, or the moment if there is a time with it. One line break at the
end does not count. -/
def dateOrMoment (s : List Char) : Except Fault (Date ⊕ Moment) :=
  let bare := if s.getLast? = some '\n' then s.dropLast else s
  let (date, rest) := Kind.dateAndRest bare
  let parts := (Text.splitAt '-' date).map digits
  if !Kind.isDate false date then .error .notMoment
  else
    match rest with
    | [] =>
      match Date.of (parts.headD 0) ((parts.drop 1).headD 0) ((parts.drop 2).headD 0) with
      | .ok d => .ok (.inl d)
      | .error f => .error (.calendar f)
    | _ =>
      match Kind.timeBehind? rest with
      | none => .error .notMoment
      | some time =>
        if !Kind.isTime time then .error .notMoment
        else
          match moment parts time with
          | .ok m => .ok (.inr m)
          | .error f => .error (.calendar f)

end Swimlane.Yaml
