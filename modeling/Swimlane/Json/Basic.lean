/-!
# JSON values

- `Json`: a JSON value. Whole numbers are kept apart from doubles, and the members of an object in
  their order.
- `Json.field?`: the member of an object with a given key.
- `Json.anyText`: whether a text in a value satisfies a test.
- `Json.finite`: a value with null in the place of all doubles that are not finite.
-/

namespace Swimlane

/-- A JSON value. -/
inductive Json where
  | null
  | bool (b : Bool)
  | int (n : Int)
  | float (x : Float)
  | str (s : String)
  | arr (items : List Json)
  | obj (members : List (String × Json))
  deriving Inhabited

namespace Json

/-- The member with a given key. -/
def field? (members : List (String × Json)) (key : String) : Option Json :=
  members.lookup key

/-- A string, or null. -/
def ofOption : Option String → Json
  | none => .null
  | some s => .str s

/-- A list of strings. -/
def strings (items : List String) : Json := .arr (items.map .str)

mutual
/-- Whether a string or a key in a value satisfies a test. -/
def anyText (test : String → Bool) : Json → Bool
  | .str s => test s
  | .arr items => anyTextOfItems test items
  | .obj members => anyTextOfMembers test members
  | _ => false

/-- Whether a string or a key in items satisfies a test. -/
def anyTextOfItems (test : String → Bool) : List Json → Bool
  | [] => false
  | v :: rest => v.anyText test || anyTextOfItems test rest

/-- Whether a key of members, or a string or key in their values, satisfies a test. -/
def anyTextOfMembers (test : String → Bool) : List (String × Json) → Bool
  | [] => false
  | (k, v) :: rest => test k || v.anyText test || anyTextOfMembers test rest
end

mutual
/-- The value as a reader sees it whose doubles are all finite: the others are null. -/
def finite : Json → Json
  | .float x => if x.isFinite then .float x else .null
  | .arr items => .arr (finiteItems items)
  | .obj members => .obj (finiteMembers members)
  | v => v

/-- The items of a list, each with its doubles made finite or null. -/
def finiteItems : List Json → List Json
  | [] => []
  | v :: rest => v.finite :: finiteItems rest

/-- The members of an object, each with its doubles made finite or null. -/
def finiteMembers : List (String × Json) → List (String × Json)
  | [] => []
  | (k, v) :: rest => (k, v.finite) :: finiteMembers rest
end

end Json

end Swimlane
