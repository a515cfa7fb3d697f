import Swimlane.Diagram.Payload
import Swimlane.Notation.Torn

/-!
# The state of a service

A service keeps one session. The texts that it takes may be torn, and so may the diagrams of such
texts.

- `Layout.draw`: the diagram of a text from outside.
- `Service.State`: a session, with what is torn in it.
- `Service.State.update`, `Service.State.dismiss`: the two steps of a session.
-/

namespace Swimlane

/-- The diagram of a text from outside. -/
def Layout.draw {α : Type} [Scalar α] (l : Layout α) (text : Text.Raw) :
    Except LayoutError (Diagram α) :=
  l.diagram (Notation.read text)

namespace Service

/-- A session, and whether there are halves of characters in its text and in its diagram. What was
torn is in whole characters there. -/
structure State where
  session : Session Float
  tornSource : Bool
  tornDiagram : Bool

namespace State

/-- Before the first text. -/
def fresh : State := ⟨.fresh, false, false⟩

/-- Takes a new text. -/
def update (layout : Layout Float) (s : State) (text : Text.Raw) : State :=
  match layout.draw text with
  | .ok d =>
    ⟨⟨some d, none, text.written, s.session.revision + 1⟩, text.isTorn, text.tears d.payload⟩
  | .error e =>
    ⟨{ s.session with source := text.written, error := some e.message }, text.isTorn,
      s.tornDiagram⟩

/-- Clears the error. -/
def dismiss (s : State) : State := { s with session := s.session.dismiss }

/-- Whether there are halves of characters in the session. -/
def isTorn (s : State) : Bool := s.tornSource || s.tornDiagram

end State

end Service

end Swimlane
