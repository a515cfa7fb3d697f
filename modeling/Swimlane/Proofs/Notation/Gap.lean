import Swimlane.Proofs.Notation.Qualifier

/-!
# The gap behind a home

It makes no difference how many blanks stand between the home of an element and its text, unless the
text is a single group in parentheses. Behind one blank such a group is the label. Behind several it
is the qualifier, and the label is empty, for one of the blanks is taken for it.

- `Notation.IsGroup`: a text that is a single group in parentheses.
- `Placement.qualified?_congr`, `Placement.qualified?_of_group`: what a gap changes in the reading of
  a text.
- `Notation.elementLine`: the line of an element with a gap of any width.
- `Notation.ofLine?_elementLine_eq_iff`: which gaps make no difference to a line.
-/

namespace Swimlane.Notation

open Swimlane.Text

/-- A text that is a single group in parentheses: the qualifier that it ends with is all of it. -/
def IsGroup (text : List Char) : Prop := ∃ q, EndsQualified text [] q

namespace Placement

variable {p p' : Placement}

/-- The gap makes no difference in front of a text that is not a single group. -/
theorem qualified?_congr (htext : p.text = p'.text) (hgroup : ¬IsGroup p.text) :
    p.qualified? = p'.qualified? := by
  have hfront {front q : List Char} (h : EndsQualified p.text front q) : front ≠ [] := by
    rintro rfl
    exact hgroup ⟨q, h⟩
  rcases p.qualified?_cases with ⟨hmem, hread⟩ | ⟨front, q, hends, -, hread⟩ | ⟨hmem, hread, hnone⟩
  · rw [hread, p'.qualified?_of_not_mem (htext ▸ hmem), htext]
  · rw [hread, p'.qualified?_of_endsQualified (htext ▸ hends) (.inl (hfront hends))]
  · rcases p'.qualified?_cases with ⟨hmem', -⟩ | ⟨front, q, hends, -⟩ | ⟨-, hread', -⟩
    · exact absurd (htext ▸ hmem) hmem'
    · have hends' : EndsQualified p.text front q := htext ▸ hends
      exact absurd (hnone front q hends').1 (hfront hends')
    · rw [hread, hread']

/-- A single group is a qualifier if the gap has a blank to spare for the label. -/
theorem qualified?_of_group {q : List Char} (h : EndsQualified p.text [] q) :
    p.qualified? = if p.gap.length < 2 then none else some ⟨[], some q⟩ := by
  have hclosed : closedGroup? (q ++ [')']) = some q := closedGroup?_eq_some_iff.2 ⟨rfl, h.closing⟩
  rw [p.qualified?_of_opening h.cut h.opening, hclosed]
  simp only [true_and, Option.map_some]
  rfl

end Placement

/-! ### Groups as labels -/

section

variable {k : Keyword} {s s' : List Char} {p p' : Placement} {q : List Char}

/-- The element of a single group has a label if and only if the gap is a single blank. -/
theorem exists_element_of_group (hk : k ∈ Keyword.ofElements) (hdata : k ≠ .data)
    (hnote : k ≠ .note) (hp : Placement.read? s = some p) (hline : '\n' ∉ p.text)
    (h : EndsQualified p.text [] q) :
    ∃ e, Record.ofContent? k s = some (.element e) ∧ (e.label = "" ↔ ¬p.gap.length < 2) := by
  have hcaption : p.captionFor k = p.caption? := by
    cases k with
    | data => exact absurd rfl hdata
    | note => exact absurd rfl hnote
    | pool | lane | task | event | gateway | flow => rfl
  have hread := Placement.qualified?_of_group h
  by_cases hgap : p.gap.length < 2
  · rw [if_pos hgap] at hread
    have hc : p.captionFor k = some ⟨p.text, none⟩ := by
      rw [hcaption, Placement.caption?_of_qualified?_eq_none hread hline]
    obtain ⟨e, he, -, -, hlabel⟩ := exists_element hk hp hc
    refine ⟨e, he, iff_of_false (fun hempty => ?_) (not_not.2 hgap)⟩
    have htext : p.text = [] := String.ofList_eq_empty_iff.1 (hlabel.symm.trans hempty)
    exact absurd (htext ▸ h.mem) List.not_mem_nil
  · rw [if_neg hgap] at hread
    have hc : p.captionFor k = some ⟨[], some q⟩ := by
      rw [hcaption, Placement.caption?_of_qualified? hread]
    obtain ⟨e, he, -, -, hlabel⟩ := exists_element hk hp hc
    exact ⟨e, he, iff_of_true hlabel hgap⟩

end

/-! ### Lines -/

/-- The line of an element with a gap between its home and its text. -/
def elementLine (k : Keyword) (id home gap text : List Char) : List Char :=
  k.text.toList ++ ' ' :: Placement.content ⟨id, home, gap, text⟩

section

variable {id home gap text : List Char}

theorem isTrimmed_content (hid : IsRun isWord id) (hne : text ≠ []) (htext : IsTrimmed text) :
    IsTrimmed (Placement.content ⟨id, home, gap, text⟩) := by
  have hstart : IsTrimmed id := (isPhrase_of_isWord hid.ne hid.all).trimmed
  have h := hstart.join htext hid.ne hne (' ' :: '[' :: (home ++ ']' :: gap))
  simpa [Placement.content] using h

/-- The line of an element is read by what stands behind the keyword. -/
theorem ofLine?_elementLine (k : Keyword) (hid : IsRun isWord id) (hne : text ≠ [])
    (htext : IsTrimmed text) :
    Record.ofLine? (elementLine k id home gap text) =
      Record.ofContent? k (Placement.content ⟨id, home, gap, text⟩) := by
  have htrim := (trim_append_of_blank isBlank_of_mem_space
    (Placement.content ⟨id, home, gap, text⟩)).trans (isTrimmed_content hid hne htext)
  rw [List.singleton_append] at htrim
  rw [elementLine, Record.ofLine?_append, htrim]

end

section

variable {k : Keyword} {id home text gap gap' : List Char}

/-- **The gap behind a home makes no difference, except in front of a single group**: the line of an
element is read as the same element with any two gaps, if its keyword is that of data or of notes,
or its text is not a single group in parentheses, or none or both of the gaps are a single blank;
and only then. -/
theorem ofLine?_elementLine_eq_iff (hk : k ∈ Keyword.ofElements) (hid : IsRun isWord id)
    (hhome : home ≠ []) (hbracket : ']' ∉ home) (hne : text ≠ []) (htext : IsTrimmed text)
    (hline : '\n' ∉ text) (hgap : IsRun isBlank gap) (hgap' : IsRun isBlank gap') :
    Record.ofLine? (elementLine k id home gap text) =
        Record.ofLine? (elementLine k id home gap' text) ↔
      k = .data ∨ k = .note ∨ ¬IsGroup text ∨ (gap.length = 1 ↔ gap'.length = 1) := by
  have hfirst : ∀ c ∈ text.head?, isBlank c = false := fun _ => htext.head
  have hread {w : List Char} (hw : IsRun isBlank w) :
      Placement.read? (Placement.content ⟨id, home, w, text⟩) = some ⟨id, home, w, text⟩ :=
    Placement.read?_content hid hhome hbracket hw hne hfirst
  have hlength := List.length_pos_iff.2 hgap.ne
  have hlength' := List.length_pos_iff.2 hgap'.ne
  rw [ofLine?_elementLine k hid hne htext, ofLine?_elementLine k hid hne htext]
  constructor
  · intro hsame
    by_contra hnot
    simp only [not_or, not_not] at hnot
    obtain ⟨hdata, hnote, ⟨q, hends⟩, hdiffer⟩ := hnot
    obtain ⟨e, he, hlabel⟩ := exists_element_of_group hk hdata hnote (hread hgap) hline hends
    obtain ⟨e', he', hlabel'⟩ := exists_element_of_group hk hdata hnote (hread hgap') hline hends
    rw [he, he'] at hsame
    obtain rfl : e = e' := Record.element.inj (Option.some.inj hsame)
    have hboth := hlabel.symm.trans hlabel'
    dsimp only at hboth
    omega
  · intro h
    refine ofContent?_congr hk (hread hgap) (hread hgap') rfl rfl rfl ?_
    refine h.imp_right (.imp_right fun h => ?_)
    by_cases hgroup : IsGroup text
    · obtain ⟨q, hends⟩ := hgroup
      have hwidth : (gap.length < 2) = (gap'.length < 2) := by
        have := h.resolve_left (not_not.2 ⟨q, hends⟩)
        exact propext (by omega)
      rw [Placement.qualified?_of_group hends, Placement.qualified?_of_group hends]
      simp only [hwidth]
    · exact Placement.qualified?_congr rfl hgroup

end

/-- Two groups with a label between them. -/
def sorting : List Char := "(All) sorted (service, loop)".toList

/-- Two groups are read the same behind one blank and behind three. -/
theorem ofLine?_elementLine_sorting :
    Record.ofLine? "task: t [Desk] (All) sorted (service, loop)".toList =
      Record.ofLine? "task: t [Desk] \t (All) sorted (service, loop)".toList := by
  have hgroup : ¬IsGroup sorting := by
    rintro ⟨q, hends⟩
    have hinner : "All) sorted (service, loop)".toList = q ++ [')'] := (List.cons.inj hends.cut).2
    have hq : q = "All) sorted (service, loop".toList := List.append_cancel_right hinner.symm
    exact hends.closing (hq ▸ by decide)
  have hiff := @ofLine?_elementLine_eq_iff .task ['t'] "Desk".toList sorting [' '] [' ', '\t', ' ']
    (by decide) (by decide) (by decide) (by decide) (by decide) (by decide) (by decide) (by decide)
    (by decide)
  have hone : elementLine .task ['t'] "Desk".toList [' '] sorting =
      "task: t [Desk] (All) sorted (service, loop)".toList := by decide
  have hthree : elementLine .task ['t'] "Desk".toList [' ', '\t', ' '] sorting =
      "task: t [Desk] \t (All) sorted (service, loop)".toList := by decide
  rw [← hone, ← hthree]
  exact hiff.2 (.inr (.inr (.inl hgroup)))

/-- A single group is the label of an event behind one blank, and its variant behind two. -/
theorem ofLine?_loneGroup :
    Record.ofLine? "event: e [L] (x)".toList =
        some (.element ⟨"e", "L", "(x)", .event, none, []⟩) ∧
      Record.ofLine? "event: e [L]  (x)".toList =
        some (.element ⟨"e", "L", "", .event, some "x", []⟩) := by
  decide

end Swimlane.Notation
