/-!
# Days and moments

Dates of the Gregorian calendar, and moments on them with an optional distance from the zero
meridian's time.

- `Date`, `Moment`: the types.
- `Calendar.Fault`: which part of a date or a moment is out of its range.
- `Date.of`, `Moment.of`: the same in range only.
- `Date.text`, `Moment.text`: the form that is shown alone; `Date.spelled` and `Moment.spelled` give
  the form inside a collection.
- `Moment.instant`: what two moments with a zone have in common when they are the same.
-/

namespace Swimlane

/-- A day. -/
structure Date where
  year : Nat
  month : Nat
  day : Nat
  deriving DecidableEq, Repr

/-- A moment on a day; the zone counts seconds to the east. -/
structure Moment where
  date : Date
  hour : Nat
  minute : Nat
  second : Nat
  microsecond : Nat
  zone : Option Int
  deriving DecidableEq, Repr

namespace Calendar

/-- Which part is out of its range. -/
inductive Fault where
  | year (n : Nat)
  | month
  | day
  | hour
  | minute
  | second
  | zone (seconds : Int)
  deriving DecidableEq, Repr

/-- The number of seconds of a day. -/
def secondsOfDay : Nat := 86400

/-- A length of time by its days and seconds. -/
def spelledSpan (seconds : Int) : String :=
  let days := seconds.fdiv secondsOfDay
  let rest := seconds.fmod secondsOfDay
  let parts := (if days = 0 then [] else ["days=" ++ toString days]) ++
    (if rest = 0 then [] else ["seconds=" ++ toString rest])
  "datetime.timedelta(" ++ (if parts.isEmpty then "0" else String.intercalate ", " parts) ++ ")"

/-- The wording of a fault. -/
def Fault.message : Fault → String
  | year n => "year " ++ toString n ++ " is out of range"
  | month => "month must be in 1..12"
  | day => "day is out of range for month"
  | hour => "hour must be in 0..23"
  | minute => "minute must be in 0..59"
  | second => "second must be in 0..59"
  | zone s =>
    "offset must be a timedelta strictly between -timedelta(hours=24) and timedelta(hours=24), not "
      ++ spelledSpan s ++ "."

/-- A number with leading zeros up to a width. -/
def padded (width n : Nat) : String :=
  let ds := Nat.toDigits 10 n
  String.ofList (List.replicate (width - ds.length) '0' ++ ds)

/-- Whether a year has a day more. -/
def isLeap (year : Nat) : Bool := year % 4 = 0 && (year % 100 ≠ 0 || year % 400 = 0)

/-- The number of days of a month. -/
def daysOfMonth (year month : Nat) : Nat :=
  if month = 2 then (if isLeap year then 29 else 28)
  else if [4, 6, 9, 11].contains month then 30
  else 31

end Calendar

namespace Date

open Calendar

/-- A day in its range. -/
def of (year month day : Nat) : Except Fault Date :=
  if year = 0 || 9999 < year then .error (.year year)
  else if month = 0 || 12 < month then .error .month
  else if day = 0 || daysOfMonth year month < day then .error .day
  else .ok ⟨year, month, day⟩

/-- The number of the day, counted from the first day of the first year. -/
def number (d : Date) : Nat :=
  let before := d.year - 1
  let months := ((List.range d.month).drop 1).map (daysOfMonth d.year)
  months.foldl (· + ·) (365 * before + before / 4 - before / 100 + before / 400) + d.day

/-- The day with its parts joined by dashes. -/
def text (d : Date) : String := padded 4 d.year ++ "-" ++ padded 2 d.month ++ "-" ++ padded 2 d.day

/-- The parts of the day as numbers. -/
def parts (d : Date) : List Nat := [d.year, d.month, d.day]

/-- The day inside a collection. -/
def spelled (d : Date) : String :=
  "datetime.date(" ++ String.intercalate ", " (d.parts.map toString) ++ ")"

end Date

namespace Moment

open Calendar

/-- A moment in its range. -/
def of (year month day hour minute second microsecond : Nat) (zone : Option Int) :
    Except Fault Moment :=
  let far (z : Int) : Bool := secondsOfDay ≤ z.natAbs
  if zone.any far then .error (.zone (zone.getD 0))
  else
    match Date.of year month day with
    | .error f => .error f
    | .ok date =>
      if 23 < hour then .error .hour
      else if 59 < minute then .error .minute
      else if 59 < second then .error .second
      else .ok ⟨date, hour, minute, second, microsecond, zone⟩

/-- The moment in microseconds, and whether it has a zone, which is taken off. -/
def instant (m : Moment) : Bool × Int :=
  let seconds : Int :=
    ((m.date.number * 24 + m.hour) * 60 + m.minute) * 60 + m.second - m.zone.getD 0
  (m.zone.isSome, seconds * 1000000 + m.microsecond)

/-- The zone as hours and minutes with a sign. -/
def zoneText (z : Int) : String :=
  let minutes := z.natAbs / 60
  (if z < 0 then "-" else "+") ++ padded 2 (minutes / 60) ++ ":" ++ padded 2 (minutes % 60)

/-- The moment alone. -/
def text (m : Moment) : String :=
  m.date.text ++ " " ++ padded 2 m.hour ++ ":" ++ padded 2 m.minute ++ ":" ++ padded 2 m.second ++
    (if m.microsecond = 0 then "" else "." ++ padded 6 m.microsecond) ++
    (m.zone.map zoneText).getD ""

/-- The zone inside a collection. -/
def spelledZone (z : Int) : String :=
  "tzinfo=" ++
    if z = 0 then "datetime.timezone.utc" else "datetime.timezone(" ++ spelledSpan z ++ ")"

/-- The moment inside a collection; seconds that are zero are left out at the end. -/
def spelled (m : Moment) : String :=
  let fine :=
    if m.microsecond ≠ 0 then [m.second, m.microsecond]
    else if m.second ≠ 0 then [m.second]
    else []
  let parts := (m.date.parts ++ [m.hour, m.minute] ++ fine).map toString
  "datetime.datetime(" ++ String.intercalate ", " (parts ++ m.zone.toList.map spelledZone) ++ ")"

end Moment

end Swimlane
