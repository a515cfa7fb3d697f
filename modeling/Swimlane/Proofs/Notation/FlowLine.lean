import Swimlane.Proofs.Notation.Identifier
import Swimlane.Proofs.Text.Blank
import Swimlane.Proofs.Text.Run

/-!
# Flow lines

A flow line is two identifiers with an arrow between them, and a label in brackets may stand behind
them. Blanks may stand at each joint. Where one part ends, the next begins with a character of
another kind, so a text is a flow line in one way at most.

- `Notation.FlowLine`, `FlowLine.text`: a flow line in its parts, and the parts in a row.
- `FlowLine.Fits`: a way to cut a text into the parts of a flow line.
- `FlowLine.Fits.unique`: there is at most one.
- `FlowLine.Fits.read?_eq`, `FlowLine.exists_fits_of_read?`: the reader finds it if there is one.
- `Notation.connection?_grammar`: which texts are connections, and which connections they are.
-/

namespace Swimlane.Notation

open Swimlane.Text

/-! ### Arrows -/

namespace Arrow

theorem read?_append (a : Arrow) (rest : List Char) : read? (a.text ++ rest) = some (a, rest) := by
  cases a <;> rfl

/-- The arrow that is read stands in front of the rest. -/
theorem eq_of_read? {s rest : List Char} {a : Arrow} (h : read? s = some (a, rest)) :
    s = a.text ++ rest := by
  unfold read? at h
  split at h
  case h_1 | h_2 | h_3 =>
    cases h
    rfl
  case h_4 => cases h

/-- No arrow is the front of another one. -/
theorem eq_of_append {a a' : Arrow} {rest rest' : List Char}
    (h : a.text ++ rest = a'.text ++ rest') : a = a' ∧ rest = rest' := by
  have hread := congrArg read? h
  rw [read?_append, read?_append] at hread
  exact Prod.mk.inj (Option.some.inj hread)

/-- No arrow begins with a blank. -/
theorem head?_text_append (a : Arrow) (rest : List Char) :
    ∀ c ∈ (a.text ++ rest).head?, isBlank c = false := by
  cases a <;> (rintro c ⟨⟩; decide)

/-- No arrow begins with a word character. -/
theorem isWord_head?_text_append (a : Arrow) (rest : List Char) :
    ∀ c ∈ (a.text ++ rest).head?, isWord c = false := by
  cases a <;> (rintro c ⟨⟩; exact inRanges_eq_false_of_lt (by decide))

/-- An arrow draws the kind that its text stands for. -/
theorem arrowKind_text (a : Arrow) : arrowKind (String.ofList a.text) = a.kind := by
  cases a <;> decide

end Arrow

/-! ### Parts -/

/-- A label in brackets, with the blanks in front of them. -/
structure FlowLabel where
  gap : List Char
  text : List Char
  deriving DecidableEq, Repr

/-- A flow line in its parts, with the blanks on both sides of the arrow. -/
structure FlowLine where
  source : List Char
  before : List Char
  arrow : Arrow
  after : List Char
  target : List Char
  label : Option FlowLabel
  deriving DecidableEq, Repr

namespace FlowLine

/-- What stands behind the target: a label in its brackets, or nothing. -/
def ending : Option FlowLabel → List Char
  | none => []
  | some l => l.gap ++ '[' :: (l.text ++ [']'])

/-- The parts in a row, from the target on. -/
def fromTarget (f : FlowLine) : List Char := f.target ++ ending f.label

/-- The parts in a row, from the arrow on. -/
def fromArrow (f : FlowLine) : List Char := f.arrow.text ++ (f.after ++ f.fromTarget)

/-- The parts in a row. -/
def text (f : FlowLine) : List Char := f.source ++ (f.before ++ f.fromArrow)

/-- A way to cut a text into an identifier, blanks, an arrow, blanks, an identifier, and at most
blanks and a label in brackets. -/
structure Fits (f : FlowLine) (s : List Char) : Prop where
  cut : s = f.text
  source : IsRun isWord f.source
  before : ∀ c ∈ f.before, isBlank c = true
  after : ∀ c ∈ f.after, isBlank c = true
  target : IsRun isWord f.target
  gap : ∀ l ∈ f.label, ∀ c ∈ l.gap, isBlank c = true
  bracket : ∀ l ∈ f.label, ']' ∉ l.text

/-- The parts without the blanks. -/
def flow (f : FlowLine) : Flow := ⟨f.source, f.arrow, f.target, f.label.map (·.text)⟩

/-- The label, trimmed, unless it is absent or blank. -/
def caption? (f : FlowLine) : Option String :=
  match f.label with
  | none => none
  | some l => if trim l.text = [] then none else some (String.ofList (trim l.text))

/-- The connection that a flow line draws. -/
def connection (f : FlowLine) : Connection :=
  ⟨String.ofList f.source, String.ofList f.target, f.caption?,
    arrowKind (String.ofList f.arrow.text)⟩

/-! ### Joints -/

theorem isBlank_bracket (rest : List Char) : ∀ c ∈ ('[' :: rest).head?, isBlank c = false := by
  rintro c ⟨⟩
  decide

namespace Fits

variable {f : FlowLine} {s : List Char} (h : f.Fits s)

include h

/-- The source ends in front of a blank or the arrow. -/
theorem source_stop : ∀ c ∈ (f.before ++ f.fromArrow).head?, isWord c = false :=
  of_mem_head?_append (fun c hc => isWord_eq_false_of_isBlank (h.before c hc))
    (f.arrow.isWord_head?_text_append _)

/-- The blanks behind the arrow end in front of the target. -/
theorem after_stop : ∀ c ∈ f.fromTarget.head?, isBlank c = false := by
  intro c hc
  rw [fromTarget, List.head?_append_of_ne_nil _ h.target.ne] at hc
  exact isBlank_eq_false_of_isWord (h.target.all c (List.mem_of_head? hc))

/-- The target ends in front of a blank or a bracket, or with the text. -/
theorem target_stop : ∀ c ∈ (ending f.label).head?, isWord c = false := by
  cases hlabel : f.label with
  | none => exact fun _ hc => nomatch hc
  | some l =>
    refine of_mem_head?_append (fun c hc => isWord_eq_false_of_isBlank (h.gap l hlabel c hc)) ?_
    rintro c ⟨⟩
    decide +kernel

end Fits

/-! ### One way to cut a text -/

/-- A label is told by its brackets. -/
theorem ending_injective {l l' : Option FlowLabel}
    (hgap : ∀ a ∈ l, ∀ c ∈ a.gap, isBlank c = true) (hgap' : ∀ a ∈ l', ∀ c ∈ a.gap, isBlank c = true)
    (h : ending l = ending l') : l = l' := by
  have hne (a : FlowLabel) : ending (some a) ≠ [] :=
    List.append_ne_nil_of_right_ne_nil _ (List.cons_ne_nil _ _)
  cases l with
  | none =>
    cases l' with
    | none => rfl
    | some a' => exact absurd h.symm (hne a')
  | some a =>
    cases l' with
    | none => exact absurd h (hne a)
    | some a' =>
      obtain ⟨hblanks, hrest⟩ :=
        eq_of_run h (hgap a rfl) (hgap' a' rfl) (isBlank_bracket _) (isBlank_bracket _)
      have htext : a.text = a'.text := List.append_cancel_right (List.cons.inj hrest).2
      obtain ⟨_, _⟩ := a
      exact congrArg some (congrArg₂ FlowLabel.mk hblanks htext)

/-- A text is a flow line in one way at most: at each joint, the kinds of characters differ. -/
theorem Fits.unique {f f' : FlowLine} {s : List Char} (h : f.Fits s) (h' : f'.Fits s) : f = f' := by
  have htext : f.text = f'.text := h.cut.symm.trans h'.cut
  obtain ⟨hsource, hrest⟩ :=
    eq_of_run htext h.source.all h'.source.all h.source_stop h'.source_stop
  obtain ⟨hbefore, hrest⟩ := eq_of_run hrest h.before h'.before (f.arrow.head?_text_append _)
    (f'.arrow.head?_text_append _)
  obtain ⟨harrow, hrest⟩ := Arrow.eq_of_append hrest
  obtain ⟨hafter, hrest⟩ := eq_of_run hrest h.after h'.after h.after_stop h'.after_stop
  obtain ⟨htarget, hrest⟩ :=
    eq_of_run hrest h.target.all h'.target.all h.target_stop h'.target_stop
  have hlabel := ending_injective h.gap h'.gap hrest
  cases f
  cases f'
  simp only at hsource hbefore harrow hafter htarget hlabel
  subst hsource hbefore harrow hafter htarget hlabel
  rfl

/-! ### The reader -/

theorem flowLabel?_ending {l : Option FlowLabel} (hgap : ∀ a ∈ l, ∀ c ∈ a.gap, isBlank c = true)
    (hbracket : ∀ a ∈ l, ']' ∉ a.text) : flowLabel? (ending l) = some (l.map (·.text)) := by
  cases l with
  | none => rfl
  | some a =>
    have hopen : (ending (some a)).dropWhile isBlank = '[' :: (a.text ++ [']']) :=
      dropWhile_append_of_stop (hgap a rfl) (isBlank_bracket _)
    rw [flowLabel?]
    · simp only [hopen, takeWhile_append_mark (hbracket a rfl),
        dropWhile_append_mark (hbracket a rfl)]
      rfl
    · exact List.append_ne_nil_of_right_ne_nil _ (List.cons_ne_nil _ _)

/-- The label that is read stands at the end, behind blanks. -/
theorem exists_ending_of_flowLabel? {s : List Char} {label : Option (List Char)}
    (h : flowLabel? s = some label) :
    ∃ l : Option FlowLabel, s = ending l ∧ label = l.map (·.text) ∧
      (∀ a ∈ l, ∀ c ∈ a.gap, isBlank c = true) ∧ ∀ a ∈ l, ']' ∉ a.text := by
  unfold flowLabel? at h
  split at h
  case h_1 =>
    cases h
    exact ⟨none, rfl, rfl, (fun _ ha => nomatch ha), (fun _ ha => nomatch ha)⟩
  case h_2 =>
    split at h
    case h_2 => cases h
    case h_1 inner hinner =>
      split at h
      case h_2 => cases h
      case h_1 hclose =>
        obtain rfl := Option.some.inj h
        refine ⟨some ⟨s.takeWhile isBlank, inner.takeWhile (· ≠ ']')⟩, ?_, rfl, ?_, ?_⟩
        · rw [ending, ← hclose, List.takeWhile_append_dropWhile, ← hinner,
            List.takeWhile_append_dropWhile]
        · rintro _ ⟨⟩ c hc
          exact List.mem_takeWhile_imp hc
        · rintro _ ⟨⟩ hmem
          simpa using List.mem_takeWhile_imp hmem

/-- The reader finds the parts of a flow line. -/
theorem Fits.read?_eq {f : FlowLine} {s : List Char} (h : f.Fits s) :
    Flow.read? s = some f.flow := by
  obtain rfl := h.cut
  have harrow : (f.before ++ f.fromArrow).dropWhile isBlank = f.fromArrow :=
    dropWhile_append_of_stop h.before (f.arrow.head?_text_append _)
  have hread : Arrow.read? f.fromArrow = some (f.arrow, f.after ++ f.fromTarget) :=
    Arrow.read?_append _ _
  have htarget : (f.after ++ f.fromTarget).dropWhile isBlank = f.target ++ ending f.label :=
    dropWhile_append_of_stop h.after h.after_stop
  unfold Flow.read?
  simp only [text, takeWhile_append_of_stop h.source.all h.source_stop,
    dropWhile_append_of_stop h.source.all h.source_stop, harrow, hread, Option.bind_eq_bind,
    Option.bind_some, htarget,
    takeWhile_append_of_stop h.target.all h.target_stop,
    dropWhile_append_of_stop h.target.all h.target_stop, flowLabel?_ending h.gap h.bracket]
  exact if_neg (not_or.2 ⟨h.source.ne, h.target.ne⟩)

/-- What the reader finds is a flow line. -/
theorem exists_fits_of_read? {s : List Char} {r : Flow} (h : Flow.read? s = some r) :
    ∃ f : FlowLine, f.Fits s := by
  obtain ⟨⟨arrow, rest⟩, harrow, h⟩ := Option.bind_eq_some_iff.1 h
  obtain ⟨label, hlabel, h⟩ := Option.bind_eq_some_iff.1 h
  obtain ⟨l, hending, -, hgap, hbracket⟩ := exists_ending_of_flowLabel? hlabel
  split at h
  case isTrue => cases h
  case isFalse hne =>
    obtain ⟨hsource, htarget⟩ := not_or.1 hne
    refine ⟨⟨s.takeWhile isWord, (s.dropWhile isWord).takeWhile isBlank, arrow,
      rest.takeWhile isBlank, (rest.dropWhile isBlank).takeWhile isWord, l⟩, ?_,
      ⟨hsource, fun c => List.mem_takeWhile_imp⟩, fun c => List.mem_takeWhile_imp,
      fun c => List.mem_takeWhile_imp, ⟨htarget, fun c => List.mem_takeWhile_imp⟩, hgap, hbracket⟩
    rw [text, fromArrow, fromTarget]
    dsimp only
    rw [← hending, List.takeWhile_append_dropWhile, List.takeWhile_append_dropWhile,
      ← Arrow.eq_of_read? harrow, List.takeWhile_append_dropWhile, List.takeWhile_append_dropWhile]

/-- A flow line is read as the connection that it draws. -/
theorem Fits.connection?_eq {f : FlowLine} {s : List Char} (h : f.Fits s) :
    connection? s = some f.connection := by
  rw [connection?, h.read?_eq, Option.map_some, connection, Arrow.arrowKind_text, caption?, flow]
  cases f.label with
  | none => rfl
  | some l =>
    dsimp only [Option.map_some, Option.getD_some]
    cases trim l.text with
    | nil => rfl
    | cons c rest => rfl

end FlowLine

/-- **Flow lines accept exactly their grammar**: a text is read as a connection if and only if it is
two identifiers with an arrow between them and at most a label in brackets behind, with any blanks
at the joints; there is at most one way to cut it so, and the connection joins the two identifiers,
in the kind of the arrow, with the trimmed label unless that is absent or blank. -/
theorem connection?_grammar (s : List Char) :
    (∀ c : Connection, connection? s = some c ↔ ∃ f : FlowLine, f.Fits s ∧ c = f.connection) ∧
      ∀ f f' : FlowLine, f.Fits s → f'.Fits s → f = f' := by
  refine ⟨fun c => ⟨fun h => ?_, ?_⟩, fun f f' hf hf' => hf.unique hf'⟩
  · obtain ⟨r, hread, -⟩ := Option.map_eq_some_iff.1 h
    obtain ⟨f, hf⟩ := FlowLine.exists_fits_of_read? hread
    exact ⟨f, hf, Option.some.inj (h.symm.trans hf.connection?_eq)⟩
  · rintro ⟨f, hf, rfl⟩
    exact hf.connection?_eq

/-- A label may hold what looks like another flow, and a blank one is none. -/
example :
    connection? "a..>b\t[ c -> d [e ]".toList = some ⟨"a", "b", some "c -> d [e", .association⟩ ∧
      connection? "a -->b [ ]".toList = some ⟨"a", "b", none, .message⟩ ∧
      connection? "a --> b [c] d".toList = none := by
  decide +kernel

end Swimlane.Notation
