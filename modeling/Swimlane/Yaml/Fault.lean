import Swimlane.Calendar
import Swimlane.Text.Numeral
import Swimlane.Text.Utf8

/-!
# What can be wrong with a YAML text

- `Yaml.Fault`: why a text has no value. Most texts are simply malformed, or end inside a quoted
  scalar, or have too many collections inside one another; numbers, truth values and moments that
  are announced by a tag have faults of their own.
- `Yaml.Fault.message`: the wording of a fault.
-/

namespace Swimlane.Yaml

/-- Why a text has no value. -/
inductive Fault where
  | malformed
  | unfinished
  | tooDeep
  | undecodable (fault : Text.Utf8.DecodeFault)
  | noCharacter (code : Nat)
  | numeral (fault : Numeral.Fault)
  | noDigits
  | notDouble (text : Text.Raw)
  | tooLarge
  | notTruth (word : Text.Raw)
  | notMoment
  | momentOfMapping
  | calendar (fault : Calendar.Fault)
  deriving DecidableEq, Repr

namespace Fault

/-- The greatest number that is taken for a code point at all. -/
def codeLimit : Nat := 0x80000000

/-- The wording of a fault. -/
def message : Fault → String
  | malformed => "not a YAML document"
  | unfinished => "not the whole of a YAML document"
  | tooDeep => "maximum recursion depth exceeded"
  | undecodable fault => fault.message
  | noCharacter code =>
    if code < codeLimit then "chr() arg not in range(0x110000)"
    else "Python int too large to convert to C int"
  | numeral fault => fault.message
  | noDigits => "string index out of range"
  | notDouble text => "could not convert string to float: " ++ text.quoted
  | tooLarge => "int too large to convert to float"
  | notTruth word => word.quoted
  | notMoment => "'NoneType' object has no attribute 'groupdict'"
  | momentOfMapping => "expected string or bytes-like object, got 'list'"
  | calendar fault => fault.message

end Fault

end Swimlane.Yaml
