import Swimlane.Document.Basic
import Swimlane.Scalar
import Swimlane.Text.Blank

/-!
# Shapes of elements

Each kind of element has a size that the placement reserves for it and a size at which it is drawn,
both whole numbers of units. Some variants have an icon.

- `reserved`, `drawn`: the two sizes of a kind.
- `icon`: the icon of a kind and variant.
- `drawn_le_reserved`: no shape is drawn larger than its reserved place.
- `drawn_pos`, `reserved_width_bounds`: how large the sizes are.
-/

namespace Swimlane

namespace ElementKind

/-- The size that the placement reserves for an element. -/
def reserved : ElementKind → Size Nat
  | activity => ⟨140, 60⟩
  | event => ⟨50, 50⟩
  | decision => ⟨60, 60⟩
  | data => ⟨60, 70⟩
  | note => ⟨120, 50⟩

/-- The size at which an element is drawn. -/
def drawn : ElementKind → Size Nat
  | activity => ⟨140, 60⟩
  | event => ⟨40, 40⟩
  | decision => ⟨56, 56⟩
  | data => ⟨40, 50⟩
  | note => ⟨120, 40⟩

/-- No shape is drawn larger than its reserved place. -/
theorem drawn_le_reserved (k : ElementKind) :
    k.drawn.width ≤ k.reserved.width ∧ k.drawn.height ≤ k.reserved.height := by
  cases k <;> decide

/-- No shape is narrower or flatter than a point. -/
theorem drawn_pos (k : ElementKind) : 0 < k.drawn.width ∧ 0 < k.drawn.height := by
  cases k <;> decide

/-- The widths that are reserved do not differ much. -/
theorem reserved_width_bounds (k : ElementKind) :
    50 ≤ k.reserved.width ∧ k.reserved.width ≤ 140 := by
  cases k <;> decide

end ElementKind

/-- The icons of gateways. -/
def gatewayIcons : List (String × String) :=
  [("xor", "X"), ("and", "+"), ("or", "O"), ("event-based", "pentagon"), ("complex", "*")]

/-- The words that give an event its icon, the strongest first. -/
def eventIconWords : List String :=
  ["timer", "message", "error", "terminate", "signal", "escalation"]

/-- The variants of a task that have an icon of the same name. -/
def taskIcons : List String :=
  ["user", "service", "script", "manual", "send", "receive", "business-rule"]

/-- The icon of an element. A gateway's and a task's is told by the whole variant, an event's by a
word in it; case and outer blanks do not matter. -/
def icon (kind : ElementKind) (variant : Option String) : Option String :=
  let text := Text.lower (Text.trim (variant.getD "").toList)
  match kind with
  | .decision => gatewayIcons.lookup (String.ofList text)
  | .event => eventIconWords.find? fun word => occursIn word.toList text
  | .activity => taskIcons.find? (· = String.ofList text)
  | .data | .note => none

/-- How an element is shown. -/
structure Shape where
  reserved : Size Nat
  drawn : Size Nat
  icon : Option String
  deriving DecidableEq, Repr

/-- The shape of an element. -/
def Shape.of (kind : ElementKind) (variant : Option String) : Shape :=
  ⟨kind.reserved, kind.drawn, Swimlane.icon kind variant⟩

/-- The shape for the name of a kind. A name that is not known is shown as an activity without an
icon. -/
def Shape.named (kind : String) (variant : Option String) : Shape :=
  match ElementKind.ofName? kind with
  | some k => Shape.of k variant
  | none => ⟨ElementKind.activity.reserved, ElementKind.activity.drawn, none⟩

end Swimlane
