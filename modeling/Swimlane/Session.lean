import Swimlane.Layout

/-!
# Sessions

A session keeps the last good diagram. A text that has no diagram leaves the diagram as it is and
sets an error, which stays until it is dismissed or a text succeeds.

- `Session`: the state.
- `Session.update`, `Session.dismiss`: the two steps, and `Session.Event` for both.
- `Session.run`: a sequence of steps.
-/

namespace Swimlane

/-- The last text, the last good diagram, how many texts were good, and the current error. -/
structure Session (α : Type) where
  diagram : Option (Diagram α)
  error : Option String
  source : String
  revision : Nat
  deriving DecidableEq, Repr

namespace Session

variable {α : Type} [Scalar α]

omit [Scalar α] in
/-- Before the first text. -/
def fresh : Session α := ⟨none, none, "", 0⟩

/-- Takes a new text. -/
def update (l : Layout α) (s : Session α) (text : String) : Session α :=
  match l.generate text with
  | .ok diagram => ⟨some diagram, none, text, s.revision + 1⟩
  | .error e => { s with source := text, error := some e.message }

/-- Whether a new text has a diagram. -/
def accepts (l : Layout α) (text : String) : Bool := (l.generate text).isOk

omit [Scalar α] in
/-- Clears the error. -/
def dismiss (s : Session α) : Session α := { s with error := none }

/-- What can happen to a session. -/
inductive Event where
  | update (text : String)
  | dismiss
  deriving DecidableEq, Repr

/-- The session after one event. -/
def step (l : Layout α) (s : Session α) : Event → Session α
  | .update text => s.update l text
  | .dismiss => s.dismiss

/-- The session after a sequence of events. -/
def run (l : Layout α) (s : Session α) (events : List Event) : Session α :=
  events.foldl (step l) s

end Session

end Swimlane
