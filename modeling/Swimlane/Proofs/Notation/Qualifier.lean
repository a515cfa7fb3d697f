import Swimlane.Proofs.Notation.Placement

/-!
# Qualifiers

A text behind a home ends with a qualifier if its first opening parenthesis encloses all that
follows. Where it does not, the parentheses belong to the label. A label may be cut off its
qualifier and its gap in several ways, which differ in the blanks at its ends only.

- `Notation.EndsQualified`: a text that ends with a qualifier.
- `Caption.Fits`: a way to cut a text into a label and a qualifier.
- `Placement.qualified?_eq_some_iff`: all cuts of a line give the caption that the reader finds.
- `Caption.Describes`: the label and the qualifier of a text by its first opening parenthesis.
- `Element.FollowsOptions`: the variant and the markers that the options of a qualifier stand for.
- `Notation.elements_described`: what tasks, events and gateways make of a text.
-/

namespace Swimlane.Notation

open Swimlane.Text

/-! ### Texts that end with a qualifier -/

/-- A text that ends with a qualifier: its first opening parenthesis is closed by its last
character, and by none before. -/
structure EndsQualified (text front qualifier : List Char) : Prop where
  cut : text = front ++ '(' :: (qualifier ++ [')'])
  opening : '(' ∉ front
  closing : ')' ∉ qualifier

theorem EndsQualified.mem {text front q : List Char} (h : EndsQualified text front q) :
    '(' ∈ text := by
  rw [h.cut]
  exact List.mem_append_right _ (.head _)

/-- A text is cut at its first opening parenthesis in one way. -/
theorem eq_of_first_mark {mark : Char} {front front' rest rest' : List Char}
    (h : front ++ mark :: rest = front' ++ mark :: rest') (hfront : mark ∉ front)
    (hfront' : mark ∉ front') : front = front' ∧ rest = rest' := by
  have htake := congrArg (List.takeWhile (· ≠ mark)) h
  rw [takeWhile_append_mark hfront, takeWhile_append_mark hfront'] at htake
  subst htake
  exact ⟨rfl, (List.cons.inj (List.append_cancel_left h)).2⟩

theorem EndsQualified.unique {text front front' q q' : List Char} (h : EndsQualified text front q)
    (h' : EndsQualified text front' q') : front = front' ∧ q = q' := by
  obtain ⟨hfront, hrest⟩ := eq_of_first_mark (h.cut.symm.trans h'.cut) h.opening h'.opening
  exact ⟨hfront, List.append_cancel_right hrest⟩

/-- The inside of a group ends at the first closing parenthesis, which is the last character. -/
theorem closedGroup?_eq_some_iff {s q : List Char} :
    closedGroup? s = some q ↔ s = q ++ [')'] ∧ ')' ∉ q := by
  constructor
  · intro h
    unfold closedGroup? at h
    split at h
    case h_2 => cases h
    case h_1 hlast =>
      obtain rfl := Option.some.inj h
      refine ⟨?_, fun hmem => ?_⟩
      · rw [← hlast, List.takeWhile_append_dropWhile]
      · simpa using List.mem_takeWhile_imp hmem
  · rintro ⟨rfl, hq⟩
    unfold closedGroup?
    simp only [takeWhile_append_mark hq, dropWhile_append_mark hq]

namespace Placement

variable (p : Placement)

/-- Without an opening parenthesis there is a label alone. -/
theorem qualified?_of_not_mem (h : '(' ∉ p.text) : p.qualified? = some ⟨p.text, none⟩ := by
  have hall : ∀ c ∈ p.text, decide (c ≠ '(') = true := fun c hc =>
    decide_eq_true fun heq => h (heq ▸ hc)
  unfold qualified?
  simp only [List.takeWhile_eq_self_iff.2 hall, List.dropWhile_eq_nil_iff.2 hall]

/-- The first opening parenthesis is that of the qualifier. -/
theorem qualified?_of_opening {front inner : List Char} (htext : p.text = front ++ '(' :: inner)
    (h : '(' ∉ front) :
    p.qualified? = if front = [] ∧ p.gap.length < 2 then none
      else (closedGroup? inner).map fun q => ⟨trim front, some q⟩ := by
  unfold qualified?
  simp only [htext, takeWhile_append_mark h, dropWhile_append_mark h]

/-- A qualifier is read from a text that ends with one, behind a label or enough blanks. -/
theorem qualified?_of_endsQualified {front q : List Char} (h : EndsQualified p.text front q)
    (hfront : front ≠ [] ∨ 2 ≤ p.gap.length) : p.qualified? = some ⟨trim front, some q⟩ := by
  have hclosed : closedGroup? (q ++ [')']) = some q := closedGroup?_eq_some_iff.2 ⟨rfl, h.closing⟩
  rw [p.qualified?_of_opening h.cut h.opening, if_neg, hclosed]
  · rfl
  · rintro ⟨hnil, hlt⟩
    rcases hfront with hne | hle
    · exact hne hnil
    · omega

/-- What is read from a text: a label alone, a qualifier behind a label or enough blanks, or
nothing. -/
theorem qualified?_cases :
    ('(' ∉ p.text ∧ p.qualified? = some ⟨p.text, none⟩) ∨
      (∃ front q, EndsQualified p.text front q ∧ (front ≠ [] ∨ 2 ≤ p.gap.length) ∧
        p.qualified? = some ⟨trim front, some q⟩) ∨
      ('(' ∈ p.text ∧ p.qualified? = none ∧
        ∀ front q, EndsQualified p.text front q → front = [] ∧ p.gap.length < 2) := by
  by_cases hmem : '(' ∈ p.text
  · right
    obtain ⟨front, inner, htext, hfront⟩ := List.eq_append_cons_of_mem hmem
    by_cases hq : ∃ front q, EndsQualified p.text front q ∧ (front ≠ [] ∨ 2 ≤ p.gap.length)
    · obtain ⟨front, q, h, hroom⟩ := hq
      exact .inl ⟨front, q, h, hroom, p.qualified?_of_endsQualified h hroom⟩
    · have hnone : ∀ front q, EndsQualified p.text front q → front = [] ∧ p.gap.length < 2 := by
        intro front q h
        by_contra hroom
        exact hq ⟨front, q, h, (not_and_or.1 hroom).imp_right not_lt.1⟩
      refine .inr ⟨hmem, ?_, hnone⟩
      rw [p.qualified?_of_opening htext hfront]
      cases hclosed : closedGroup? inner with
      | none => split <;> rfl
      | some q =>
        obtain ⟨rfl, hclose⟩ := closedGroup?_eq_some_iff.1 hclosed
        exact if_pos (hnone front q ⟨htext, hfront, hclose⟩)
  · exact .inl ⟨hmem, p.qualified?_of_not_mem hmem⟩

end Placement

/-! ### Ways to cut a text -/

/-- What stands behind a label: a qualifier in parentheses, or nothing. -/
def enclosed : Option (List Char) → List Char
  | none => []
  | some q => '(' :: (q ++ [')'])

/-- A way to cut a text into a label, blanks, and a qualifier in parentheses, which may be
missing. -/
structure Caption.Fits (c : Caption) (text : List Char) : Prop where
  cut : ∃ blanks, (∀ b ∈ blanks, isBlank b = true) ∧
    text = c.label ++ (blanks ++ enclosed c.qualifier)
  label_ne : c.label ≠ []
  opening : '(' ∉ c.label
  closing : ∀ q ∈ c.qualifier, ')' ∉ q

/-- A caption without the blanks around its label. -/
def Caption.trimmed (c : Caption) : Caption := ⟨trim c.label, c.qualifier⟩

/-- A label without a qualifier is all of its text, up to blanks. -/
theorem Caption.Fits.of_none {c : Caption} {text : List Char} (h : c.Fits text)
    (hc : c.qualifier = none) : '(' ∉ text ∧ trim c.label = trim text := by
  obtain ⟨blanks, hblanks, rfl⟩ := h.cut
  rw [hc]
  constructor
  · intro hmem
    rcases List.mem_append.1 hmem with hmem | hmem
    · exact h.opening hmem
    · rw [enclosed, List.append_nil] at hmem
      exact absurd (hblanks '(' hmem) (by decide)
  · rw [enclosed, List.append_nil, trim_append_of_blank_right hblanks]

/-- A label with a qualifier is all of the text in front of it, up to blanks. -/
theorem Caption.Fits.of_some {c : Caption} {text q : List Char} (h : c.Fits text)
    (hc : c.qualifier = some q) :
    ∃ front, EndsQualified text front q ∧ front ≠ [] ∧ trim c.label = trim front := by
  obtain ⟨blanks, hblanks, rfl⟩ := h.cut
  refine ⟨c.label ++ blanks, ⟨?_, fun hmem => ?_, h.closing q hc⟩,
    List.append_ne_nil_of_left_ne_nil h.label_ne _, (trim_append_of_blank_right hblanks _).symm⟩
  · rw [hc, enclosed, List.append_assoc]
  · rcases List.mem_append.1 hmem with hmem | hmem
    · exact h.opening hmem
    · exact absurd (hblanks '(' hmem) (by decide)

/-- A text that ends with a qualifier can be cut in front of it. -/
theorem EndsQualified.fits {text front q : List Char} (h : EndsQualified text front q)
    (hne : front ≠ []) : Caption.Fits ⟨front, some q⟩ text where
  cut := ⟨[], List.forall_mem_nil _, h.cut⟩
  label_ne := hne
  opening := h.opening
  closing := by
    rintro _ ⟨⟩
    exact h.closing

/-- A qualifier stays where it is when the blanks in front of the text are taken away. -/
theorem EndsQualified.dropWhile {text front q : List Char} (h : EndsQualified text front q) :
    EndsQualified (text.dropWhile isBlank) (front.dropWhile isBlank) q where
  cut := by rw [h.cut, dropWhile_append_cons (by decide)]
  opening hmem := h.opening ((List.dropWhile_sublist isBlank).subset hmem)
  closing := h.closing

namespace Placement

variable {s : List Char} {p : Placement} {c : Caption}

/-- However a trimmed line is cut into its parts with a label and a qualifier, they are those that
are read, up to the blanks around the label. -/
theorem Fits.qualified?_settled (hp : p.Fits s) (hs : IsTrimmed s) (hc : c.Fits p.text) :
    p.settled.qualified? = some c.trimmed := by
  cases hq : c.qualifier with
  | none =>
    obtain ⟨hmem, hlabel⟩ := hc.of_none hq
    have htrimmed : IsTrimmed p.settled.text :=
      (fits_of_read? (hp.read?_of_trimmed hs)).1.trimmed_text hs of_mem_head?_dropWhile
    have htext : trim c.label = p.settled.text := by
      rw [hlabel, ← trim_dropWhile]
      exact htrimmed
    have hopen : '(' ∉ p.settled.text := fun h =>
      hmem ((List.dropWhile_sublist isBlank).subset h)
    rw [p.settled.qualified?_of_not_mem hopen, Caption.trimmed, htext, hq]
  | some q =>
    obtain ⟨front, hends, hne, hlabel⟩ := hc.of_some hq
    have hroom : front.dropWhile isBlank ≠ [] ∨ 2 ≤ p.settled.gap.length := by
      by_cases hblank : front.dropWhile isBlank = []
      · -- the label is blank, and the gap takes all of it
        have htake : p.text.takeWhile isBlank = front := by
          rw [hends.cut]
          refine takeWhile_append_of_stop (List.dropWhile_eq_nil_iff.1 hblank) ?_
          rintro b ⟨⟩
          decide
        have hgap := List.length_pos_iff.2 hp.gap.ne
        have hfront := List.length_pos_iff.2 hne
        have hlength : p.settled.gap.length = p.gap.length + front.length := by
          rw [settled, htake, List.length_append]
        omega
      · exact .inl hblank
    rw [p.settled.qualified?_of_endsQualified hends.dropWhile hroom, trim_dropWhile, ← hlabel, ← hq]
    rfl

/-- The last blank of the gap may be counted to the text. -/
theorem Fits.shift (hp : p.Fits s) {gap : List Char} {b : Char} (hgap : p.gap = gap ++ [b])
    (hne : gap ≠ []) : Fits ⟨p.id, p.home, gap, b :: p.text⟩ s where
  cut := by
    obtain ⟨lead, hlead, rfl⟩ := hp.cut
    refine ⟨lead, hlead, ?_⟩
    rw [hgap, List.append_assoc]
    rfl
  id := hp.id
  home_ne := hp.home_ne
  bracket := hp.bracket
  gap := ⟨hne, fun c hc => hp.gap.all c (hgap ▸ List.mem_append_left _ hc)⟩
  text_ne := List.cons_ne_nil _ _

/-- What is read with a label and a qualifier can be cut that way. -/
theorem Fits.exists_fits_of_qualified? (hp : p.Fits s) (hc : p.qualified? = some c) :
    ∃ (p' : Placement) (c' : Caption), p'.Fits s ∧ c'.Fits p'.text := by
  rcases p.qualified?_cases with ⟨hmem, -⟩ | ⟨front, q, hends, hroom, -⟩ | ⟨-, hnot, -⟩
  · refine ⟨p, ⟨p.text, none⟩, hp, ⟨[], List.forall_mem_nil _, ?_⟩, hp.text_ne, hmem,
      fun _ h => nomatch h⟩
    simp [enclosed]
  · by_cases hne : front = []
    · -- the last blank of the gap is the label
      subst hne
      have hlength : 2 ≤ p.gap.length := hroom.resolve_left fun h => h rfl
      obtain ⟨gap, b, hgap⟩ := (List.eq_nil_or_concat p.gap).resolve_left hp.gap.ne
      rw [List.concat_eq_append] at hgap
      have hgap_ne : gap ≠ [] := by
        rintro rfl
        rw [hgap] at hlength
        exact absurd hlength (by simp)
      have hblank : isBlank b = true := hp.gap.all b (by simp [hgap])
      have hends' : EndsQualified (b :: p.text) [b] q :=
        { cut := congrArg (b :: ·) hends.cut
          opening := fun hmem => by
            obtain rfl := List.mem_singleton.1 hmem
            exact absurd hblank (by decide)
          closing := hends.closing }
      exact ⟨_, _, hp.shift hgap hgap_ne, hends'.fits (List.cons_ne_nil _ _)⟩
    · exact ⟨p, _, hp, hends.fits hne⟩
  · rw [hnot] at hc
    cases hc

/-- A trimmed line is read with a label and a qualifier if and only if it can be cut that way. -/
theorem qualified?_eq_some_iff (hs : IsTrimmed s) (hp : read? s = some p) :
    p.qualified? = some c ↔
      ∃ (p' : Placement) (c' : Caption), p'.Fits s ∧ c'.Fits p'.text ∧ c = c'.trimmed := by
  have hsame {p' : Placement} {c' : Caption} (hp' : p'.Fits s) (hc' : c'.Fits p'.text) :
      p.qualified? = some c'.trimmed := by
    have hread := hp'.read?_of_trimmed hs
    rw [hp] at hread
    rw [Option.some.inj hread]
    exact hp'.qualified?_settled hs hc'
  constructor
  · intro hc
    obtain ⟨p', c', hp', hc'⟩ := (fits_of_read? hp).1.exists_fits_of_qualified? hc
    refine ⟨p', c', hp', hc', ?_⟩
    rw [hsame hp' hc'] at hc
    exact (Option.some.inj hc).symm
  · rintro ⟨p', c', hp', hc', rfl⟩
    exact hsame hp' hc'

end Placement

/-! ### Labels and qualifiers by the first parenthesis -/

/-- The label and the qualifier of a text. The qualifier is what the first opening parenthesis
encloses, if that is all that follows, and the label is what stands in front of it. Otherwise the
whole text is the label. -/
structure Caption.Describes (c : Caption) (text : List Char) : Prop where
  qualifier_iff : ∀ q, c.qualifier = some q ↔ ∃ front, EndsQualified text front q
  label_of_endsQualified : ∀ front q, EndsQualified text front q → c.label = trim front
  label_of_none : c.qualifier = none → c.label = text

/-- A text without a qualifier is described by itself. -/
theorem Caption.describes_text {text : List Char} (h : ∀ front q, ¬EndsQualified text front q) :
    Caption.Describes ⟨text, none⟩ text where
  qualifier_iff q := by
    constructor
    · rintro ⟨⟩
    · rintro ⟨front, hends⟩
      exact absurd hends (h front q)
  label_of_endsQualified front q hends := absurd hends (h front q)
  label_of_none _ := rfl

theorem Caption.describes_of_endsQualified {text front q : List Char}
    (h : EndsQualified text front q) : Caption.Describes ⟨trim front, some q⟩ text where
  qualifier_iff q' := by
    constructor
    · rintro ⟨⟩
      exact ⟨front, h⟩
    · rintro ⟨front', h'⟩
      rw [(h.unique h').2]
  label_of_endsQualified front' q' h' := by rw [(h.unique h').1]
  label_of_none hnone := nomatch hnone

/-- The caption of a text on one line that does not begin with an opening parenthesis, and where the
text is read with a qualifier or without any parenthesis. -/
theorem Placement.exists_describes {p : Placement} (hopen : p.text.head? ≠ some '(')
    (hline : '\n' ∉ p.text) :
    ∃ c, p.caption? = some c ∧ c.Describes p.text ∧
      (p.qualified?.isSome = true ↔ ('(' ∈ p.text → c.qualifier ≠ none)) := by
  rcases p.qualified?_cases with ⟨hmem, hread⟩ | ⟨front, q, hends, -, hread⟩ | ⟨hmem, hread, hnone⟩
  · refine ⟨⟨p.text, none⟩, ?_, Caption.describes_text fun _ _ h => hmem h.mem, ?_⟩
    · exact caption?_of_qualified? hread
    · rw [hread]
      exact ⟨fun _ h => absurd h hmem, fun _ => rfl⟩
  · refine ⟨⟨trim front, some q⟩, ?_, Caption.describes_of_endsQualified hends, ?_⟩
    · exact caption?_of_qualified? hread
    · rw [hread]
      exact ⟨fun _ _ h => (nomatch h), fun _ => rfl⟩
  · have hnot : ∀ front q, ¬EndsQualified p.text front q := by
      intro front q hends
      -- the front would be empty, so the text would begin with the parenthesis
      rw [hends.cut, (hnone front q hends).1] at hopen
      exact hopen rfl
    refine ⟨⟨p.text, none⟩, ?_, Caption.describes_text hnot, ?_⟩
    · exact caption?_of_qualified?_eq_none hread hline
    · rw [hread]
      exact ⟨fun h => (nomatch h), fun h => absurd rfl (h hmem)⟩

/-! ### Options of tasks -/

/-- The variant of an element is the last of some options that is no marker, or the default where
all are markers; its markers are those among them, once each, in the order of their first
mention. -/
structure FollowsOptions (options : List String) (e : Element) : Prop where
  variant : (∃ before v after, options = before ++ v :: after ∧ e.variant = some v ∧
      v ∉ taskMarkers ∧ ∀ t ∈ after, t ∈ taskMarkers) ∨
    (e.variant = some defaultTaskVariant ∧ ∀ t ∈ options, t ∈ taskMarkers)
  mem_markers : ∀ m, m ∈ e.markers ↔ m ∈ options ∧ m ∈ taskMarkers
  ordered : e.markers.Pairwise fun m m' => options.idxOf m < options.idxOf m'

theorem taskVariant_cases (tokens : List String) :
    (∃ before v after, tokens = before ++ v :: after ∧ taskVariant tokens = v ∧
        v ∉ taskMarkers ∧ ∀ t ∈ after, t ∈ taskMarkers) ∨
      (taskVariant tokens = defaultTaskVariant ∧ ∀ t ∈ tokens, t ∈ taskMarkers) := by
  -- from the end, where the last option is
  induction tokens using List.reverseRecOn with
  | nil => exact .inr ⟨rfl, fun _ h => nomatch h⟩
  | append_singleton tokens t ih =>
    by_cases ht : t ∈ taskMarkers
    · have hsame : taskVariant (tokens ++ [t]) = taskVariant tokens := by
        rw [taskVariant, List.filter_append, List.filter_cons_of_neg (by simpa using ht),
          List.filter_nil, List.append_nil, taskVariant]
      rw [hsame]
      rcases ih with ⟨before, v, after, rfl, hv, hmarker, hafter⟩ | ⟨hdefault, hall⟩
      · refine .inl ⟨before, v, after ++ [t], by simp, hv, hmarker, fun t' ht' => ?_⟩
        rcases List.mem_append.1 ht' with ht' | ht'
        · exact hafter t' ht'
        · rwa [List.mem_singleton.1 ht']
      · refine .inr ⟨hdefault, fun t' ht' => ?_⟩
        rcases List.mem_append.1 ht' with ht' | ht'
        · exact hall t' ht'
        · rwa [List.mem_singleton.1 ht']
    · refine .inl ⟨tokens, t, [], rfl, ?_, ht, fun _ h => nomatch h⟩
      rw [taskVariant, List.filter_append, List.filter_cons_of_pos (by simpa using ht),
        List.filter_nil, List.getLast?_concat]
      rfl

/-- First occurrences are kept in the order of their places. -/
theorem pairwise_idxOf_distinct (items : List String) :
    (distinct items).Pairwise fun a b => items.idxOf a < items.idxOf b := by
  induction items with
  | nil => exact .nil
  | cons c rest ih =>
    have hne {a : String} (ha : a ∈ (distinct rest).filter (· ≠ c)) : c ≠ a := fun h =>
      of_decide_eq_true (List.mem_filter.1 ha).2 h.symm
    rw [distinct_cons]
    refine .cons (fun b hb => ?_) ((ih.filter _).imp_of_mem fun {a b} ha hb hlt => ?_)
    · rw [List.idxOf_cons_self, List.idxOf_cons_ne rest (hne hb)]
      exact Nat.succ_pos _
    · rw [List.idxOf_cons_ne rest (hne ha), List.idxOf_cons_ne rest (hne hb)]
      exact Nat.succ_lt_succ hlt

theorem followsOptions_elementOf (p : Placement) (label : List Char) (tokens : List String) :
    FollowsOptions tokens
      (elementOf p label .activity (some (taskVariant tokens)) (markersOf tokens)) where
  variant := by
    rcases taskVariant_cases tokens with ⟨before, v, after, htokens, hv, hrest⟩ | ⟨hv, hall⟩
    · exact .inl ⟨before, v, after, htokens, congrArg some hv, hrest⟩
    · exact .inr ⟨congrArg some hv, hall⟩
  mem_markers m := by
    show m ∈ distinct (markersOf tokens) ↔ _
    rw [mem_distinct, markersOf, List.mem_filter, decide_eq_true_iff]
  ordered := by
    show (distinct (markersOf tokens)).Pairwise _
    rw [markersOf, ← filter_distinct]
    exact (pairwise_idxOf_distinct tokens).filter _

/-! ### What is made of a text -/

/-- What a task makes of a text with a caption: without a qualifier, parentheses in the label make
it an unqualified one. -/
structure FollowsCaption (c : Caption) (text : List Char) (e : Element) : Prop where
  kind : e.kind = .activity
  unqualified : '(' ∈ text → c.qualifier = none →
    e.variant = some unqualifiedTaskVariant ∧ e.markers = []
  qualified : ('(' ∈ text → c.qualifier ≠ none) → FollowsOptions (options c.qualifier) e

/-- **Qualifiers are told by the first parenthesis**: for a trimmed line without line feeds whose
text does not begin with an opening parenthesis, tasks, events and gateways are declared with the
label and the qualifier that the first opening parenthesis tells. No way to cut the line into its
parts with a label and a qualifier gives any others. A task follows the options of its qualifier,
unless its identifier makes it an event. -/
theorem elements_described {s : List Char} (hs : IsTrimmed s) (hline : '\n' ∉ s) {p : Placement}
    (hp : p.Fits s) (hfirst : ∀ b ∈ p.text.head?, isBlank b = false)
    (hopen : p.text.head? ≠ some '(') :
    ∃ c : Caption, c.Describes p.text ∧
      (∀ (p' : Placement) (c' : Caption), p'.Fits s → c'.Fits p'.text → c'.trimmed = c) ∧
      event? s = some (elementOf p c.label .event (subtype? c.qualifier) []) ∧
      gateway? s = some (elementOf p c.label .decision
        (some ((subtype? c.qualifier).getD defaultGatewayVariant)) []) ∧
      ∃ e, task? s = some e ∧ e.id = String.ofList p.id ∧ e.home = String.ofList (trim p.home) ∧
        e.label = String.ofList c.label ∧
        (e.id ≠ "start" → e.id ≠ "end" → FollowsCaption c p.text e) := by
  have hread : Placement.read? s = some p := by
    have h := hp.read?_of_trimmed hs
    rwa [Placement.settled_eq_self hfirst] at h
  have htext : '\n' ∉ p.text := hp.not_mem_text hline
  obtain ⟨c, hc, hdescribes, hqualified⟩ := Placement.exists_describes hopen htext
  refine ⟨c, hdescribes, fun p' c' hp' hc' => ?_, event?_eq hread hc, gateway?_eq hread hc, _,
    task?_eq hread hc, ?_⟩
  · have hfound : p.qualified? = some c'.trimmed :=
      (Placement.qualified?_eq_some_iff hs hread).2 ⟨p', c', hp', hc', rfl⟩
    rw [Placement.caption?_of_qualified? hfound] at hc
    exact Option.some.inj hc
  · split
    case isTrue hevent =>
      refine ⟨rfl, rfl, rfl, fun hstart hend => ?_⟩
      exact absurd hevent (not_or.2 ⟨hstart, hend⟩)
    case isFalse =>
      split
      case isTrue hsome =>
        refine ⟨rfl, rfl, rfl, fun _ _ => ⟨rfl, fun hmem hnone => ?_, fun _ => ?_⟩⟩
        · exact absurd hnone (hqualified.1 hsome hmem)
        · exact followsOptions_elementOf p c.label (options c.qualifier)
      case isFalse hnone =>
        refine ⟨rfl, rfl, rfl, fun _ _ => ⟨rfl, fun _ _ => ⟨rfl, rfl⟩, fun h => ?_⟩⟩
        exact absurd (hqualified.2 h) hnone

/-- A task whose qualifier opens another parenthesis, lists a marker twice and an empty option. -/
def nested : Placement :=
  ⟨"t1".toList, "Desk".toList, [' '], "Sort [all] (Service, LOOP,, loop , remote (x)".toList⟩

theorem elements_described_nested :
    ∃ s, (IsTrimmed s ∧ '\n' ∉ s ∧ nested.Fits s) ∧
      (∀ b ∈ nested.text.head?, isBlank b = false) ∧ nested.text.head? ≠ some '(' ∧
      ∃ c : Caption, c.Describes nested.text ∧
        c = ⟨"Sort [all]".toList, some "Service, LOOP,, loop , remote (x".toList⟩ ∧
        ∃ e, task? s = some e ∧ e.label = "Sort [all]" ∧ FollowsCaption c nested.text e := by
  have hfits : nested.Fits "t1 [Desk] Sort [all] (Service, LOOP,, loop , remote (x)".toList :=
    { cut := ⟨[' '], by decide, by decide⟩
      id := by decide
      home_ne := by decide
      bracket := by decide
      gap := by decide
      text_ne := by decide }
  have hends : EndsQualified nested.text "Sort [all] ".toList
      "Service, LOOP,, loop , remote (x".toList := ⟨by decide, by decide, by decide⟩
  have hfirst : ∀ b ∈ nested.text.head?, isBlank b = false := by
    rintro b ⟨⟩
    decide
  obtain ⟨c, hc, -, -, -, e, he, hid, -, hlabel, hfollows⟩ :=
    elements_described (by decide) (by decide) hfits hfirst (by decide)
  have hcaption : c = ⟨"Sort [all]".toList, some "Service, LOOP,, loop , remote (x".toList⟩ := by
    obtain ⟨label, qualifier⟩ := c
    have hq : qualifier = _ := (hc.qualifier_iff _).2 ⟨_, hends⟩
    have hl : label = _ := hc.label_of_endsQualified _ _ hends
    rw [hq, hl]
    decide
  refine ⟨_, ⟨by decide, by decide, hfits⟩, hfirst, by decide, c, hc, hcaption, e, he, ?_, ?_⟩
  · rw [hlabel, hcaption]
    decide
  · exact hfollows (by rw [hid]; decide) (by rw [hid]; decide)

end Swimlane.Notation
