import Swimlane.Json.Basic

/-!
# Checked data

Data from outside is checked field by field. A check does not stop at the first fault: all faults
are collected in the order of the fields, each with the path to its place.

- `Fault`: what can be wrong with a value, with its code and wording.
- `Issue`, `Invalid`: a fault with its place, and all issues of one piece of data.
- `Issue.payload`: an issue as JSON.
- `Checked`: a value or its issues; two checks are joined by `Checked.both`.
- `Check.required`, `Check.optional`, `Check.list`: fields of an object and items of a list.
-/

namespace Swimlane

/-- What can be wrong with a value. -/
inductive Fault where
  | missing
  | notString
  | emptyString
  | notElementKind
  | notConnectionKind
  | notList
  | notObject (model : String)
  | noAttributes
  | notNumber
  | unreadableNumber
  | notInteger
  | unreadableInteger
  | oversizedInteger
  | fractional
  | notFinite
  | notAboveZero
  | belowZero
  | notUnicode
  | tooManyDigits
  | unexpected
  | notJson
  deriving DecidableEq, Repr

namespace Fault

/-- The code of a fault. -/
def code : Fault → String
  | missing => "missing"
  | notString => "string_type"
  | emptyString => "string_too_short"
  | notElementKind => "literal_error"
  | notConnectionKind => "literal_error"
  | notList => "list_type"
  | notObject _ => "model_type"
  | noAttributes => "model_attributes_type"
  | notNumber => "float_type"
  | unreadableNumber => "float_parsing"
  | notInteger => "int_type"
  | unreadableInteger => "int_parsing"
  | oversizedInteger => "int_parsing_size"
  | fractional => "int_from_float"
  | notFinite => "finite_number"
  | notAboveZero => "greater_than"
  | belowZero => "greater_than_equal"
  | notUnicode => "string_unicode"
  | tooManyDigits => "value_error"
  | unexpected => "extra_forbidden"
  | notJson => "json_invalid"

/-- The wording of a fault. -/
def message : Fault → String
  | missing => "Field required"
  | notString => "Input should be a valid string"
  | emptyString => "String should have at least 1 character"
  | notElementKind =>
    "Input should be 'activity', 'event', 'decision', 'data' or 'annotation'"
  | notConnectionKind => "Input should be 'sequence', 'message' or 'association'"
  | notList => "Input should be a valid list"
  | notObject model => "Input should be a valid dictionary or instance of " ++ model
  | noAttributes => "Input should be a valid dictionary or object to extract fields from"
  | notNumber => "Input should be a valid number"
  | unreadableNumber => "Input should be a valid number, unable to parse string as a number"
  | notInteger => "Input should be a valid integer"
  | unreadableInteger =>
    "Input should be a valid integer, unable to parse string as an integer"
  | oversizedInteger => "Unable to parse input string as an integer, exceeded maximum size"
  | fractional => "Input should be a valid integer, got a number with a fractional part"
  | notFinite => "Input should be a finite number"
  | notAboveZero => "Input should be greater than 0"
  | belowZero => "Input should be greater than or equal to 0"
  | notUnicode =>
    "Input should be a valid string, unable to parse raw data as a unicode string"
  | tooManyDigits =>
    "Value error, Exceeds the limit (4300 digits) for integer string conversion; " ++
      "use sys.set_int_max_str_digits() to increase the limit"
  | unexpected => "Extra inputs are not permitted"
  | notJson => "JSON decode error"

end Fault

/-- A step to a part of a value. -/
inductive PathStep where
  | key (name : String)
  | index (i : Nat)
  deriving DecidableEq, Repr

/-- A fault and the path to its place. -/
structure Issue where
  fault : Fault
  path : List PathStep
  deriving DecidableEq, Repr

/-- A step as JSON. -/
def PathStep.payload : PathStep → Json
  | .key name => .str name
  | .index i => .int i

/-- An issue as JSON. -/
def Issue.payload (i : Issue) : Json :=
  .obj [("type", .str i.fault.code), ("loc", .arr (i.path.map PathStep.payload)),
    ("msg", .str i.fault.message)]

/-- The issues of a piece of data of the given name. -/
structure Invalid where
  title : String
  issues : List Issue
  deriving DecidableEq, Repr

/-- A value, or what is wrong with it. -/
inductive Checked (α : Type) where
  | good (a : α)
  | bad (issues : List Issue)
  deriving DecidableEq, Repr

namespace Checked

variable {α β : Type}

/-- A single fault at the place itself. -/
def fault (f : Fault) : Checked α := .bad [⟨f, []⟩]

/-- Applies a function to a good value. -/
def map (f : α → β) : Checked α → Checked β
  | good a => good (f a)
  | bad issues => bad issues

/-- Goes on with a good value. -/
def andThen (f : α → Checked β) : Checked α → Checked β
  | good a => f a
  | bad issues => bad issues

/-- Two checks side by side; the issues of both are collected. -/
def both : Checked (α → β) → Checked α → Checked β
  | good f, good a => good (f a)
  | good _, bad issues => bad issues
  | bad issues, good _ => bad issues
  | bad issues, bad more => bad (issues ++ more)

/-- The same check seen from one step further out. -/
def under (step : PathStep) : Checked α → Checked α
  | good a => good a
  | bad issues => bad (issues.map fun i => ⟨i.fault, step :: i.path⟩)

/-- The value, or the issues under a title. -/
def entitled (title : String) : Checked α → Except Invalid α
  | good a => .ok a
  | bad issues => .error ⟨title, issues⟩

/-- The issues of a check. -/
def issues : Checked α → List Issue
  | good _ => []
  | bad issues => issues

/-- The value of a check, if it is good. -/
def value? : Checked α → Option α
  | good a => some a
  | bad _ => none

end Checked

/-- A way of checking a value. -/
abbrev Check (α : Type) := Json → Checked α

namespace Check

variable {α β : Type}

/-- A string. -/
def string : Check String
  | .str s => .good s
  | _ => .fault .notString

/-- A string that is not empty. -/
def nonempty : Check String
  | .str s => if s = "" then .fault .emptyString else .good s
  | _ => .fault .notString

/-- A string or null. -/
def nullable : Check (Option String)
  | .null => .good none
  | .str s => .good (some s)
  | _ => .fault .notString

/-- A word with a meaning. -/
def word (f : Fault) (meaning : String → Option α) : Check α
  | .str s =>
    match meaning s with
    | some a => .good a
    | none => .fault f
  | _ => .fault f

/-- Items, numbered from `first`. -/
def items (check : Check α) : Nat → List Json → Checked (List α)
  | _, [] => .good []
  | first, v :: rest =>
    (((check v).under (.index first)).map List.cons).both (items check (first + 1) rest)

/-- A list. -/
def list (check : Check α) : Check (List α)
  | .arr vs => items check 0 vs
  | _ => .fault .notList

/-- An object of a model, with a check of its members. -/
def object (model : String) (check : List (String × Json) → Checked α) : Check α
  | .obj members => check members
  | _ => .fault (.notObject model)

/-- A member that has to be there. -/
def required (key : String) (check : Check α) (members : List (String × Json)) : Checked α :=
  Checked.under (.key key) <|
    match Json.field? members key with
    | none => .fault .missing
    | some v => check v

/-- A member with a default. -/
def optional (key : String) (default : α) (check : Check α) (members : List (String × Json)) :
    Checked α :=
  Checked.under (.key key) <|
    match Json.field? members key with
    | none => .good default
    | some v => check v

end Check

end Swimlane
