import Swimlane.Text.Split
import Swimlane.Text.Digits

/-!
# Kinds of nodes

What a node is meant to be: a tag tells, or else the spelling of a plain scalar.

- `Kind`: the kinds.
- `Kind.ofTag`: the kind that a tag names.
- `Kind.ofText`: the kind that a spelling tells.
-/

namespace Swimlane.Yaml

/-- What a node is meant to be. -/
inductive Kind where
  | null
  | bool
  | int
  | float
  | binary
  | timestamp
  | pairs
  | set
  | str
  | seq
  | map
  | merge
  | value
  | unknown
  deriving DecidableEq, Repr

namespace Kind

/-- What the tags of the standard kinds begin with. -/
def tagStart : String := "tag:yaml.org,2002:"

/-- The names of the standard kinds. -/
def names : List (String × Kind) :=
  [("null", null), ("bool", bool), ("int", int), ("float", float), ("binary", binary),
   ("timestamp", timestamp), ("omap", pairs), ("pairs", pairs), ("set", set), ("str", str),
   ("seq", seq), ("map", map), ("merge", merge), ("value", value)]

/-- The kind that a tag names. -/
def ofTag (tag : String) : Kind :=
  ((names.find? fun p => tagStart ++ p.1 = tag).map (·.2)).getD unknown

/-- Whether values of this kind hold others. -/
def isCollection (k : Kind) : Bool := k = seq || k = map || k = set || k = pairs

/-! ## Spellings -/

/-- The spellings of null. -/
def nullWords : List String := ["~", "null", "Null", "NULL", ""]

/-- The spellings of truth values. -/
def boolWords : List String :=
  ["yes", "Yes", "YES", "true", "True", "TRUE", "on", "On", "ON",
   "no", "No", "NO", "false", "False", "FALSE", "off", "Off", "OFF"]

/-- Digits and underscores. -/
def isDigitMark (c : Char) : Bool := c.isDigit || c = '_'

/-- Digits and underscores after a first digit. -/
def isDigits (s : List Char) : Bool := s.head?.any Char.isDigit && s.all isDigitMark

/-- Whether a text is not empty and all its characters satisfy a test. -/
def isRun (test : Char → Bool) (s : List Char) : Bool := !s.isEmpty && s.all test

/-- Whether a text is a number below sixty of one or two digits. -/
def isSixtieth (s : List Char) : Bool :=
  match s with
  | [a] => a.isDigit
  | [a, b] => '0' ≤ a && a ≤ '5' && b.isDigit
  | _ => false

/-- Whether a text is a digit run with at least one number below sixty behind a colon. -/
def isSexagesimal (test : List Char → Bool) (s : List Char) : Bool :=
  match Text.splitAt ':' s with
  | ds :: part :: parts => test ds && (part :: parts).all isSixtieth
  | _ => false

/-- The spelling of a whole number without its sign. -/
def isWhole (s : List Char) : Bool :=
  match s with
  | ['0'] => true
  | '0' :: 'b' :: rest => isRun (fun c => c = '0' || c = '1' || c = '_') rest
  | '0' :: 'x' :: rest => isRun (fun c => (Text.digitValue? 16 c).isSome || c = '_') rest
  | '0' :: rest => isRun (fun c => ('0' ≤ c && c ≤ '7') || c = '_') rest
  | _ => isDigits s || isSexagesimal (fun ds => isDigits ds && ds.head? ≠ some '0') s

/-- The spelling of an exponent, which may be missing: a letter, a sign and digits. -/
def isPower (s : List Char) : Bool :=
  match s with
  | [] => true
  | e :: sign :: ds =>
    (e = 'e' || e = 'E') && (sign = '-' || sign = '+') && isRun Char.isDigit ds
  | _ => false

/-- The spelling of a double without its sign; `bare` tells that there is none. -/
def isMagnitude (bare : Bool) (s : List Char) : Bool :=
  let front := s.takeWhile (· ≠ '.')
  match s.dropWhile (· ≠ '.') with
  | '.' :: back =>
    let power := back.dropWhile isDigitMark
    if front.isEmpty then
      (bare && isDigits (back.takeWhile isDigitMark) && isPower power) ||
        ["inf", "Inf", "INF"].contains (String.ofList back) ||
        bare && ["nan", "NaN", "NAN"].contains (String.ofList back)
    else isDigits front && isPower power || isSexagesimal isDigits front && back.all isDigitMark
  | _ => false

/-- Whether a text is a run of digits whose length lies between two bounds. -/
def isNumber (least most : Nat) (s : List Char) : Bool :=
  least ≤ s.length && s.length ≤ most && s.all Char.isDigit

/-- The spelling of a zone: nothing, `Z`, or hours and minutes with a sign. -/
def isZone (s : List Char) : Bool :=
  match s.dropWhile fun c => c = ' ' || c = '\t' with
  | [] => s.isEmpty
  | ['Z'] => true
  | sign :: rest =>
    (sign = '-' || sign = '+') &&
      match Text.splitAt ':' rest with
      | [hours] => isNumber 1 2 hours
      | [hours, minutes] => isNumber 1 2 hours && isNumber 2 2 minutes
      | _ => false

/-- The spelling of a time of day. -/
def isTime (s : List Char) : Bool :=
  match Text.splitAt ':' s with
  | hour :: minute :: rest =>
    let rest := [':'].intercalate rest
    let zone := rest.drop 2
    let zone := match zone with
      | '.' :: places => places.dropWhile Char.isDigit
      | _ => zone
    isNumber 1 2 hour && isNumber 2 2 minute && isNumber 2 2 (rest.take 2) && isZone zone
  | _ => false

/-- The spelling of a date, with its two dashes and no more. -/
def isDate (exact : Bool) (s : List Char) : Bool :=
  match Text.splitAt '-' s with
  | [year, month, day] =>
    let least := if exact then 2 else 1
    isNumber 4 4 year && isNumber least 2 month && isNumber least 2 day
  | _ => false

/-- A text cut behind its date: the characters up to the first that is no digit and no dash. -/
def dateAndRest (s : List Char) : List Char × List Char :=
  s.span fun c => c.isDigit || c = '-'

/-- What separates a time from its date, taken off. -/
def timeBehind? (s : List Char) : Option (List Char) :=
  match s with
  | 'T' :: rest | 't' :: rest => some rest
  | c :: _ => if c = ' ' || c = '\t' then some (s.dropWhile fun c => c = ' ' || c = '\t') else none
  | [] => none

/-- The spelling of a moment: a date of full length, or a date and a time. -/
def isTimestamp (s : List Char) : Bool :=
  let (date, rest) := dateAndRest s
  match rest with
  | [] => isDate true date
  | _ => isDate false date && (timeBehind? rest).any isTime

/-- The kind that a spelling tells. One line break at the end does not count. -/
def ofText (s : List Char) : Kind :=
  let bare := if s.getLast? = some '\n' && s ≠ ['\n'] then s.dropLast else s
  let word := String.ofList bare
  let (_, unsigned) := Text.signed bare
  if boolWords.contains word then bool
  else if isMagnitude (unsigned = bare) unsigned then float
  else if isWhole unsigned then int
  else if word = "<<" then merge
  else if nullWords.contains word then null
  else if isTimestamp bare then timestamp
  else if word = "=" then value
  else str

end Kind

end Swimlane.Yaml
