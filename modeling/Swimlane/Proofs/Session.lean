import Mathlib.Data.List.Induction
import Swimlane.Session

/-!
# What a session shows

After any sequence of events a session is told by its history: which texts were tried, which of them
have a diagram, and what happened since the last one.

- `Session.updates`, `Session.accepted`: the texts of a history, and those that have a diagram.
- `Session.Pending`: the message that a history leaves behind.
- `Session.Tells`: a state that shows a history, the last good diagram in particular.
- `Session.Tells.step`: an event keeps it; `Session.run_tells`: so every run ends in such a state.
-/

namespace Swimlane.Session

/-- The text of an update. -/
def Event.text? : Event → Option String
  | update text => some text
  | dismiss => none

/-- The texts of the updates of a history, in order. -/
def updates (events : List Event) : List String := events.filterMap Event.text?

variable {α : Type} [Scalar α] {l : Layout α}

/-- The texts whose update was accepted, in order and as often as it was. -/
def accepted (l : Layout α) (events : List Event) : List String :=
  (updates events).filter (accepts l)

/-- The most recent update of a history failed with the given message, and no dismissal came after
it. -/
def Pending (l : Layout α) (events : List Event) (message : String) : Prop :=
  ∃ before text after e, events = before ++ .update text :: after ∧ updates after = [] ∧
    Event.dismiss ∉ after ∧ l.generate text = .error e ∧ message = e.message

/-- A state that shows a history: the diagram of the last text that was accepted, the number of those
that were, the last text, and the message that is left behind. -/
structure Tells (l : Layout α) (events : List Event) (s : Session α) : Prop where
  diagram : s.diagram.map Except.ok = (accepted l events).getLast?.map l.generate
  revision : s.revision = (accepted l events).length
  source : s.source = (updates events).getLast?.getD ""
  error : ∀ message, s.error = some message ↔ Pending l events message

/-! ### One event more -/

theorem updates_concat_update (events : List Event) (text : String) :
    updates (events ++ [.update text]) = updates events ++ [text] :=
  List.filterMap_append

theorem updates_concat_dismiss (events : List Event) :
    updates (events ++ [.dismiss]) = updates events := by
  rw [updates, List.filterMap_append]
  exact List.append_nil _

theorem accepted_concat_update (l : Layout α) (events : List Event) (text : String) :
    accepted l (events ++ [.update text]) =
      accepted l events ++ if accepts l text then [text] else [] := by
  rw [accepted, updates_concat_update, List.filter_append, List.filter_cons, List.filter_nil]
  rfl

theorem accepted_concat_dismiss (l : Layout α) (events : List Event) :
    accepted l (events ++ [.dismiss]) = accepted l events := by
  rw [accepted, updates_concat_dismiss]
  rfl

/-- A message is left behind by the last event, or by none. -/
theorem pending_concat_iff {events : List Event} {last : Event} {message : String} :
    Pending l (events ++ [last]) message ↔
      ∃ text e, last = .update text ∧ l.generate text = .error e ∧ message = e.message := by
  constructor
  · rintro ⟨before, text, after, e, hsplit, hupdates, hdismiss, hfailed, hmessage⟩
    rcases List.eq_nil_or_concat after with rfl | ⟨after, last', rfl⟩
    · obtain ⟨-, hlast⟩ := List.append_inj' hsplit rfl
      exact ⟨text, e, (List.cons.inj hlast).1, hfailed, hmessage⟩
    · -- what came after the update ends with an update or a dismissal, neither of which it has
      cases last' with
      | update text' =>
        rw [List.concat_eq_append, updates_concat_update] at hupdates
        exact absurd hupdates (List.append_ne_nil_of_right_ne_nil _ (List.cons_ne_nil _ _))
      | dismiss => exact absurd (by simp) hdismiss
  · rintro ⟨text, e, rfl, hfailed, hmessage⟩
    exact ⟨events, text, [], e, rfl, rfl, List.not_mem_nil, hfailed, hmessage⟩

theorem tells_fresh (l : Layout α) : Tells l [] (fresh : Session α) where
  diagram := rfl
  revision := rfl
  source := rfl
  error := by
    intro message
    constructor
    · intro h
      cases h
    · rintro ⟨before, text, after, e, hsplit, -⟩
      exact absurd hsplit.symm (List.append_ne_nil_of_right_ne_nil _ (List.cons_ne_nil _ _))

/-- An update keeps what the state shows: a good text replaces the diagram and clears the message, a
bad one leaves the diagram and sets the message. -/
theorem Tells.update {events : List Event} {s : Session α} (h : Tells l events s) (text : String) :
    Tells l (events ++ [.update text]) (s.update l text) := by
  have hsource : (updates (events ++ [.update text])).getLast?.getD "" = text := by
    rw [updates_concat_update, List.getLast?_concat]
    rfl
  have haccepted := accepted_concat_update l events text
  cases hgenerate : l.generate text with
  | ok diagram =>
    have hgood : accepts l text = true := by
      rw [accepts, hgenerate]
      rfl
    have hstate : s.update l text = ⟨some diagram, none, text, s.revision + 1⟩ := by
      rw [Session.update, hgenerate]
    rw [if_pos hgood] at haccepted
    rw [hstate]
    refine ⟨?_, ?_, hsource.symm, fun message => ?_⟩
    · rw [haccepted, List.getLast?_concat, Option.map_some, Option.map_some, hgenerate]
    · rw [haccepted, List.length_append, h.revision]
      rfl
    · rw [pending_concat_iff]
      constructor
      · intro hnone
        cases hnone
      · rintro ⟨text', e, hlast, hfailed, -⟩
        cases hlast
        rw [hgenerate] at hfailed
        cases hfailed
  | error e =>
    have hbad : ¬ accepts l text = true := by
      rw [accepts, hgenerate]
      exact Bool.false_ne_true
    have hstate : s.update l text = { s with source := text, error := some e.message } := by
      rw [Session.update, hgenerate]
    rw [if_neg hbad, List.append_nil] at haccepted
    rw [hstate]
    refine ⟨?_, ?_, hsource.symm, fun message => ?_⟩
    · rw [haccepted]
      exact h.diagram
    · rw [haccepted]
      exact h.revision
    · rw [pending_concat_iff]
      constructor
      · intro hmessage
        exact ⟨text, e, rfl, hgenerate, (Option.some.inj hmessage).symm⟩
      · rintro ⟨text', e', hlast, hfailed, rfl⟩
        cases hlast
        rw [hgenerate] at hfailed
        cases hfailed
        rfl

/-- A dismissal clears the message and changes nothing else. -/
theorem Tells.dismiss {events : List Event} {s : Session α} (h : Tells l events s) :
    Tells l (events ++ [.dismiss]) s.dismiss where
  diagram := by
    rw [accepted_concat_dismiss]
    exact h.diagram
  revision := by
    rw [accepted_concat_dismiss]
    exact h.revision
  source := by
    rw [updates_concat_dismiss]
    exact h.source
  error := by
    intro message
    rw [pending_concat_iff]
    constructor
    · intro hnone
      cases hnone
    · rintro ⟨text, e, hlast, -⟩
      cases hlast

/-- An event keeps what the state shows. -/
theorem Tells.step {events : List Event} {s : Session α} (h : Tells l events s) (event : Event) :
    Tells l (events ++ [event]) (s.step l event) := by
  cases event with
  | update text => exact h.update text
  | dismiss => exact h.dismiss

/-- **The last good diagram**: whatever the solver and the constants of the grid, after any sequence
of events a fresh session shows the diagram of the last text that was accepted, how many were, the
last text, and the message of the last update if it failed and was not dismissed since. -/
theorem run_tells (l : Layout α) (events : List Event) : Tells l events (fresh.run l events) := by
  -- from the end, where the last event stands
  induction events using List.reverseRecOn with
  | nil => exact tells_fresh l
  | append_singleton events event ih =>
    rw [run, List.foldl_append]
    exact ih.step event

end Swimlane.Session
