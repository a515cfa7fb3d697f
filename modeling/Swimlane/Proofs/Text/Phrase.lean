import Swimlane.Proofs.Text.Blank
import Swimlane.Proofs.Text.Lines

/-!
# Phrases

A phrase can stand in a line: it is not empty, has no line breaks, and no blanks at its ends. What
begins and ends with a phrase is one.

- `Text.IsPhrase`, `Text.IsPhrase.join`: phrases, and two of them with something in between.
- `Text.isPhrase_of_isWord`: word characters make a phrase.
- `Text.IsPhrase.intercalate`: phrases with something between each two.
- `Text.lines_intercalate`: phrases one below the other are the lines of their text.
-/

namespace Swimlane.Text

theorem Unbroken.append {a b : List Char} (ha : Unbroken a) (hb : Unbroken b) :
    Unbroken (a ++ b) := by
  intro c hc
  rcases List.mem_append.1 hc with hc | hc
  · exact ha c hc
  · exact hb c hc

instance (s : List Char) : Decidable (Unbroken s) :=
  List.decidableBAll (fun c => isLineBreak c = false) s

instance (s : List Char) : Decidable (IsTrimmed s) := inferInstanceAs (Decidable (trim s = s))

/-- A text that can stand in a line: it is not empty, has no line breaks, and no blanks at its
ends. -/
structure IsPhrase (s : List Char) : Prop where
  ne : s ≠ []
  unbroken : Unbroken s
  trimmed : IsTrimmed s

instance (s : List Char) : Decidable (IsPhrase s) :=
  decidable_of_iff (s ≠ [] ∧ Unbroken s ∧ IsTrimmed s)
    ⟨fun ⟨hne, hunbroken, htrimmed⟩ => ⟨hne, hunbroken, htrimmed⟩,
      fun h => ⟨h.ne, h.unbroken, h.trimmed⟩⟩

/-- A phrase, something without line breaks, and a phrase make a phrase. -/
theorem IsPhrase.join {a b : List Char} (ha : IsPhrase a) (hb : IsPhrase b) {between : List Char}
    (hbetween : Unbroken between) : IsPhrase (a ++ (between ++ b)) where
  ne := List.append_ne_nil_of_left_ne_nil ha.ne _
  unbroken := ha.unbroken.append (hbetween.append hb.unbroken)
  trimmed := ha.trimmed.join hb.trimmed ha.ne hb.ne between

/-- Word characters make a phrase. -/
theorem isPhrase_of_isWord {s : List Char} (hne : s ≠ []) (h : ∀ c ∈ s, isWord c = true) :
    IsPhrase s where
  ne := hne
  unbroken c hc := isLineBreak_eq_false_of_not_isBlank (isBlank_eq_false_of_isWord (h c hc))
  trimmed := isTrimmed_of_ends (fun c hc => isBlank_eq_false_of_isWord (h c (List.mem_of_head? hc)))
    fun c hc => isBlank_eq_false_of_isWord (h c (List.mem_of_getLast? hc))

/-- Phrases with something without line breaks between each two make a phrase. -/
theorem IsPhrase.intercalate {between : List Char} (hbetween : Unbroken between)
    {parts : List (List Char)} (hne : parts ≠ []) (h : ∀ part ∈ parts, IsPhrase part) :
    IsPhrase (between.intercalate parts) := by
  obtain ⟨part, rest, rfl⟩ := List.exists_cons_of_ne_nil hne
  clear hne
  induction rest generalizing part with
  | nil =>
    rw [List.intercalate_singleton]
    exact h part (.head _)
  | cons next rest ih =>
    rw [List.intercalate_cons_cons, List.append_assoc]
    exact (h part (.head _)).join (ih next fun p hp => h p (.tail _ hp)) hbetween

/-- A character of a text that is joined from parts is in one of them, or between them. -/
theorem mem_intercalate {between : List Char} {parts : List (List Char)} {c : Char}
    (h : c ∈ between.intercalate parts) : c ∈ between ∨ ∃ part ∈ parts, c ∈ part := by
  induction parts with
  | nil => cases h
  | cons part rest ih =>
    cases rest with
    | nil =>
      rw [List.intercalate_singleton] at h
      exact .inr ⟨part, .head _, h⟩
    | cons next rest =>
      rw [List.intercalate_cons_cons, List.append_assoc, List.mem_append, List.mem_append] at h
      rcases h with h | h | h
      · exact .inr ⟨part, .head _, h⟩
      · exact .inl h
      · exact (ih h).imp_right fun ⟨p, hp, hc⟩ => ⟨p, .tail _ hp, hc⟩

/-- Phrases one below the other are the lines of their text. -/
theorem lines_intercalate {parts : List (List Char)} (h : ∀ part ∈ parts, IsPhrase part) :
    lines (['\n'].intercalate parts) = parts := by
  induction parts with
  | nil => rfl
  | cons part rest ih =>
    have hpart := h part (.head _)
    cases rest with
    | nil => rw [List.intercalate_singleton, lines_unbroken hpart.unbroken hpart.ne]
    | cons next rest =>
      have hstart : StartsLine (part ++ ['\n']) := isBreak_newline.startsLine_append part
      rw [List.intercalate_cons_cons, lines_append hstart fun hlast => by simp at hlast,
        lines_unbroken_isBreak hpart.unbroken isBreak_newline, ih fun p hp => h p (.tail _ hp)]
      rfl

end Swimlane.Text
