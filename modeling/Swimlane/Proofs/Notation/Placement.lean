import Swimlane.Proofs.Notation.Identifier
import Swimlane.Proofs.Text.Phrase
import Swimlane.Proofs.Text.Run

/-!
# The front of an element line

The blanks behind the home of an element can be counted to the gap or to the text behind it, so a
line may be cut into its parts in several ways. All of them have the same identifier and the same
home, and the reader finds a cut if and only if there is one.

- `Placement.Fits`: a way to cut a line into its parts.
- `Placement.settled`: the same cut with all blanks in the gap.
- `Placement.Fits.read?_eq`, `Placement.fits_of_read?`: the reader finds the settled cut.
- `Placement.content`: a line put together from its parts, which are read back.
- `Placement.captionFor`, `Notation.exists_element`: what a keyword makes of a cut.
- `Notation.ofContent?_alike`: the five keywords of elements accept the same lines.
-/

namespace Swimlane.Notation

open Swimlane.Text

namespace Placement

/-- A way to cut a line into an identifier, blanks, a home in brackets, blanks, and something
more. -/
structure Fits (p : Placement) (s : List Char) : Prop where
  cut : ∃ lead, IsRun isBlank lead ∧
    s = p.id ++ (lead ++ '[' :: (p.home ++ ']' :: (p.gap ++ p.text)))
  id : IsRun isWord p.id
  home_ne : p.home ≠ []
  bracket : ']' ∉ p.home
  gap : IsRun isBlank p.gap
  text_ne : p.text ≠ []

/-- The same cut with all blanks in the gap. -/
def settled (p : Placement) : Placement :=
  { p with gap := p.gap ++ p.text.takeWhile isBlank, text := p.text.dropWhile isBlank }

/-- A text that does not begin with a blank leaves no blanks to move. -/
theorem settled_eq_self {p : Placement} (h : ∀ c ∈ p.text.head?, isBlank c = false) :
    p.settled = p := by
  have htake := takeWhile_append_of_stop (List.forall_mem_nil _) h
  have hdrop := dropWhile_append_of_stop (List.forall_mem_nil _) h
  rw [List.nil_append] at htake hdrop
  rw [settled, htake, hdrop, List.append_nil]

section

variable {s : List Char} {p : Placement}

/-! ### Cuts and the reader -/

/-- The reader finds a cut with all blanks in the gap, if there is a character behind them. -/
theorem Fits.read?_eq (h : p.Fits s) (hne : p.settled.text ≠ []) : read? s = some p.settled := by
  obtain ⟨lead, hlead, rfl⟩ := h.cut
  obtain ⟨b, lead', rfl⟩ := List.exists_cons_of_ne_nil hlead.ne
  have hword : ∀ c ∈ (b :: lead' ++ '[' :: (p.home ++ ']' :: (p.gap ++ p.text))).head?,
      isWord c = false := by
    rintro c ⟨⟩
    rw [Bool.eq_false_iff]
    intro hc
    have hblank := hlead.all b (.head _)
    rw [isBlank_eq_false_of_isWord hc] at hblank
    cases hblank
  have hopen : ∀ c ∈ ('[' :: (p.home ++ ']' :: (p.gap ++ p.text))).head?, isBlank c = false := by
    rintro c ⟨⟩
    decide
  have hgap : (p.gap ++ p.text).takeWhile isBlank = p.settled.gap :=
    List.takeWhile_append_of_pos h.gap.all
  have htext : (p.gap ++ p.text).dropWhile isBlank = p.settled.text :=
    List.dropWhile_append_of_pos h.gap.all
  have hgap_ne : p.settled.gap ≠ [] := List.append_ne_nil_of_left_ne_nil h.gap.ne _
  unfold read?
  simp only [takeWhile_append_of_stop h.id.all hword, dropWhile_append_of_stop h.id.all hword,
    takeWhile_append_of_stop hlead.all hopen, dropWhile_append_of_stop hlead.all hopen,
    takeWhile_append_mark h.bracket, dropWhile_append_mark h.bracket, hgap, htext]
  rw [if_neg]
  · rfl
  · simp [h.id.ne, h.home_ne, hgap_ne, hne]

/-- What the reader finds is a cut of the line, with all blanks in the gap. -/
theorem fits_of_read? (h : read? s = some p) :
    p.Fits s ∧ ∀ c ∈ p.text.head?, isBlank c = false := by
  unfold read? at h
  dsimp only at h
  split at h
  case h_2 => cases h
  case h_1 inner hinner =>
    split at h
    case h_2 => cases h
    case h_1 after hafter =>
      split at h
      case isTrue => cases h
      case isFalse hne =>
        simp only [not_or] at hne
        obtain ⟨hid, hlead, hhome, hgap, htext⟩ := hne
        obtain rfl := Option.some.inj h
        have hfront : s = s.takeWhile isWord ++ ((s.dropWhile isWord).takeWhile isBlank ++
            '[' :: (inner.takeWhile (· ≠ ']') ++
              ']' :: (after.takeWhile isBlank ++ after.dropWhile isBlank))) := by
          rw [List.takeWhile_append_dropWhile, ← hafter, List.takeWhile_append_dropWhile, ← hinner,
            List.takeWhile_append_dropWhile, List.takeWhile_append_dropWhile]
        refine ⟨⟨⟨_, ⟨hlead, fun c => List.mem_takeWhile_imp⟩, hfront⟩,
          ⟨hid, fun c => List.mem_takeWhile_imp⟩, hhome, fun hmem => ?_,
          ⟨hgap, fun c => List.mem_takeWhile_imp⟩, htext⟩, of_mem_head?_dropWhile⟩
        simpa using List.mem_takeWhile_imp hmem

/-! ### Trimmed lines -/

/-- The text is the end of the line. -/
theorem Fits.exists_front (h : p.Fits s) : ∃ front, s = front ++ p.text := by
  obtain ⟨lead, -, rfl⟩ := h.cut
  exact ⟨p.id ++ (lead ++ '[' :: (p.home ++ ']' :: p.gap)), by simp⟩

theorem Fits.not_mem_text (h : p.Fits s) {c : Char} (hc : c ∉ s) : c ∉ p.text := by
  obtain ⟨front, hfront⟩ := h.exists_front
  rw [hfront, List.mem_append, not_or] at hc
  exact hc.2

/-- In a trimmed line, the last character is left behind the blanks. -/
theorem Fits.settled_text_ne (h : p.Fits s) (hs : IsTrimmed s) : p.settled.text ≠ [] := by
  intro hnil
  have hblank : ∀ c ∈ p.text, isBlank c = true := by
    simpa [settled, List.dropWhile_eq_nil_iff] using hnil
  obtain ⟨front, hfront⟩ := h.exists_front
  have hlast : p.text.getLast h.text_ne ∈ p.text.getLast? :=
    Option.mem_def.2 (List.getLast?_eq_some_getLast h.text_ne)
  have hnot := hs.getLast_of_append hfront hlast
  rw [hblank _ (List.getLast_mem h.text_ne)] at hnot
  cases hnot

/-- Every cut of a trimmed line tells what the reader finds. -/
theorem Fits.read?_of_trimmed (h : p.Fits s) (hs : IsTrimmed s) : read? s = some p.settled :=
  h.read?_eq (h.settled_text_ne hs)

/-- The text of a trimmed line is trimmed. -/
theorem Fits.trimmed_text (h : p.Fits s) (hs : IsTrimmed s)
    (hfirst : ∀ c ∈ p.text.head?, isBlank c = false) : IsTrimmed p.text := by
  obtain ⟨front, hfront⟩ := h.exists_front
  exact isTrimmed_of_ends hfirst fun c => hs.getLast_of_append hfront

/-- The reader finds nothing in a trimmed line if and only if there is no cut. -/
theorem read?_eq_none_iff (hs : IsTrimmed s) : read? s = none ↔ ∀ p : Placement, ¬p.Fits s := by
  constructor
  · intro hnone p hp
    rw [hp.read?_of_trimmed hs] at hnone
    cases hnone
  · intro h
    cases hread : read? s with
    | none => rfl
    | some p => exact absurd (fits_of_read? hread).1 (h p)

end

/-! ### Parts put together -/

/-- The parts in a row, with one blank behind the identifier. -/
def content (p : Placement) : List Char :=
  p.id ++ ' ' :: '[' :: (p.home ++ ']' :: (p.gap ++ p.text))

/-- Parts that are put together are read, if all blanks are in the gap. -/
theorem read?_content {p : Placement} (hid : IsRun isWord p.id) (hhome : p.home ≠ [])
    (hbracket : ']' ∉ p.home) (hgap : IsRun isBlank p.gap) (hne : p.text ≠ [])
    (hfirst : ∀ c ∈ p.text.head?, isBlank c = false) : read? p.content = some p := by
  have hfits : p.Fits p.content :=
    { cut := ⟨[' '], ⟨List.cons_ne_nil _ _, isBlank_of_mem_space⟩, rfl⟩
      id := hid
      home_ne := hhome
      bracket := hbracket
      gap := hgap
      text_ne := hne }
  have hself := settled_eq_self hfirst
  have hread := hfits.read?_eq (by rwa [hself])
  rwa [hself] at hread

/-! ### Captions -/

theorem plain?_of_not_mem {p : Placement} (h : '\n' ∉ p.text) : p.plain? = some ⟨p.text, none⟩ :=
  if_neg h

theorem caption?_of_qualified? {p : Placement} {c : Caption} (h : p.qualified? = some c) :
    p.caption? = some c := by
  rw [caption?, h]

theorem caption?_of_qualified?_eq_none {p : Placement} (h : p.qualified? = none)
    (hline : '\n' ∉ p.text) : p.caption? = some ⟨p.text, none⟩ := by
  rw [caption?, h]
  exact plain?_of_not_mem hline

/-- What a keyword makes of the text behind a home: data and notes have no qualifier. -/
def captionFor (k : Keyword) (p : Placement) : Option Caption :=
  match k with
  | .data | .note => p.plain?
  | _ => p.caption?

/-- Only a text of several lines has no caption. -/
theorem exists_captionFor {p : Placement} (h : '\n' ∉ p.text) (k : Keyword) :
    ∃ c, p.captionFor k = some c := by
  have hcaption : ∃ c, p.caption? = some c := by
    cases hread : p.qualified? with
    | some c => exact ⟨c, caption?_of_qualified? hread⟩
    | none => exact ⟨_, caption?_of_qualified?_eq_none hread h⟩
  cases k with
  | data | note => exact ⟨_, plain?_of_not_mem h⟩
  | pool | lane | task | event | gateway | flow => exact hcaption

end Placement

/-! ### Keywords -/

/-- No keyword is the front of another one. -/
theorem Keyword.ofLine?_append (k : Keyword) (rest : List Char) :
    ofLine? (k.text.toList ++ rest) = some k := by
  cases k <;> rfl

/-- Behind a keyword, the rest of the line is read without the blanks at its ends. -/
theorem Record.ofLine?_append (k : Keyword) (rest : List Char) :
    ofLine? (k.text.toList ++ rest) = ofContent? k (trim rest) := by
  have hdrop : (k.text.toList ++ rest).drop k.text.length = rest := by
    rw [← String.length_toList]
    exact List.drop_left
  rw [ofLine?, Keyword.ofLine?_append, Option.bind_eq_bind, Option.bind_some, hdrop]

/-- The keywords of elements. -/
def Keyword.ofElements : List Keyword := [task, event, gateway, data, note]

/-! ### Elements -/

section

variable {s : List Char} {p : Placement} {c : Caption}

theorem event?_eq (hp : Placement.read? s = some p) (hc : p.caption? = some c) :
    event? s = some (elementOf p c.label .event (subtype? c.qualifier) []) := by
  rw [event?, hp, Option.bind_eq_bind, Option.bind_some, hc]
  rfl

theorem gateway?_eq (hp : Placement.read? s = some p) (hc : p.caption? = some c) :
    gateway? s = some (elementOf p c.label .decision
      (some ((subtype? c.qualifier).getD defaultGatewayVariant)) []) := by
  rw [gateway?, hp, Option.bind_eq_bind, Option.bind_some, hc]
  rfl

theorem plain?_eq (hp : Placement.read? s = some p) (hc : p.plain? = some c) (kind : ElementKind) :
    plain? kind s = some (elementOf p c.label kind none []) := by
  rw [plain?, hp, Option.bind_eq_bind, Option.bind_some, hc]
  rfl

/-- The kind, variant and markers of a task. -/
theorem task?_eq (hp : Placement.read? s = some p) (hc : p.caption? = some c) :
    task? s = some (
      if String.ofList p.id = "start" ∨ String.ofList p.id = "end" then
        elementOf p c.label .event (some (String.ofList p.id)) []
      else if p.qualified?.isSome then
        elementOf p c.label .activity (some (taskVariant (options c.qualifier)))
          (markersOf (options c.qualifier))
      else elementOf p c.label .activity (some unqualifiedTaskVariant) []) := by
  rw [task?, hp, Option.bind_eq_bind, Option.bind_some, hc, Option.bind_eq_bind, Option.bind_some]
  dsimp only
  split
  · rfl
  · split <;> rfl

end

/-- A line with a caption declares an element under the identifier, the home and the label that are
read from it. -/
theorem exists_element {k : Keyword} (hk : k ∈ Keyword.ofElements) {s : List Char} {p : Placement}
    {c : Caption} (hp : Placement.read? s = some p) (hc : p.captionFor k = some c) :
    ∃ e, Record.ofContent? k s = some (.element e) ∧ e.id = String.ofList p.id ∧
      e.home = String.ofList (trim p.home) ∧ e.label = String.ofList c.label := by
  cases k with
  | task =>
    refine ⟨_, congrArg (Option.map Record.element) (task?_eq hp hc), ?_⟩
    split
    · exact ⟨rfl, rfl, rfl⟩
    · split <;> exact ⟨rfl, rfl, rfl⟩
  | event => exact ⟨_, congrArg (Option.map Record.element) (event?_eq hp hc), rfl, rfl, rfl⟩
  | gateway => exact ⟨_, congrArg (Option.map Record.element) (gateway?_eq hp hc), rfl, rfl, rfl⟩
  | data => exact ⟨_, congrArg (Option.map Record.element) (plain?_eq hp hc .data), rfl, rfl, rfl⟩
  | note => exact ⟨_, congrArg (Option.map Record.element) (plain?_eq hp hc .note), rfl, rfl, rfl⟩
  | pool | lane | flow => exact absurd hk (by decide)

/-- Behind the same identifier and home, a text that is read in the same way declares the same
record. For data and notes, it is enough that it is the same text. -/
theorem ofContent?_congr {k : Keyword} (hk : k ∈ Keyword.ofElements) {s s' : List Char}
    {p p' : Placement} (hp : Placement.read? s = some p) (hp' : Placement.read? s' = some p')
    (hid : p.id = p'.id) (hhome : p.home = p'.home) (htext : p.text = p'.text)
    (h : k = .data ∨ k = .note ∨ p.qualified? = p'.qualified?) :
    Record.ofContent? k s = Record.ofContent? k s' := by
  have hplain : p.plain? = p'.plain? := by
    unfold Placement.plain?
    rw [htext]
  have helement : elementOf p = elementOf p' := by
    funext label kind variant markers
    rw [elementOf, hid, hhome, elementOf]
  cases k with
  | data | note =>
    unfold Record.ofContent? plain?
    simp only [hp, hp', Option.bind_eq_bind, Option.bind_some, hplain, helement]
  | task | event | gateway =>
    have hqualified : p.qualified? = p'.qualified? :=
      (h.resolve_left Keyword.noConfusion).resolve_left Keyword.noConfusion
    have hcaption : p.caption? = p'.caption? := by
      rw [Placement.caption?, hqualified, hplain, Placement.caption?]
    simp only [Record.ofContent?, task?, event?, gateway?, hp, hp', Option.bind_eq_bind,
      Option.bind_some, hid, hqualified, hcaption, helement]
  | pool | lane | flow => exact absurd hk (by decide)

/-- A line that cannot be cut declares no element. -/
theorem ofContent?_of_read?_eq_none {k : Keyword} (hk : k ∈ Keyword.ofElements) {s : List Char}
    (hs : Placement.read? s = none) : Record.ofContent? k s = none := by
  cases k with
  | task => rw [Record.ofContent?, task?, hs]; rfl
  | event => rw [Record.ofContent?, event?, hs]; rfl
  | gateway => rw [Record.ofContent?, gateway?, hs]; rfl
  | data | note => rw [Record.ofContent?, plain?, hs]; rfl
  | pool | lane | flow => exact absurd hk (by decide)

/-- **The five keywords of elements accept the same lines**: however a trimmed line without line
feeds is cut into its parts, each keyword declares an element with the identifier and the trimmed
home of that cut, so all five agree on them; and where there is no cut, none declares anything. -/
theorem ofContent?_alike {s : List Char} (hs : IsTrimmed s) (hline : '\n' ∉ s) :
    (∀ p : Placement, p.Fits s → ∀ k ∈ Keyword.ofElements, ∃ e,
        Record.ofContent? k s = some (.element e) ∧
          e.id = String.ofList p.id ∧ e.home = String.ofList (trim p.home)) ∧
      ((∀ p : Placement, ¬p.Fits s) → ∀ k ∈ Keyword.ofElements, Record.ofContent? k s = none) := by
  constructor
  · intro p hp k hk
    have hread := hp.read?_of_trimmed hs
    have htext : '\n' ∉ p.settled.text := (Placement.fits_of_read? hread).1.not_mem_text hline
    obtain ⟨c, hc⟩ := Placement.exists_captionFor htext k
    obtain ⟨e, he, hid, hhome, -⟩ := exists_element hk hread hc
    exact ⟨e, he, hid, hhome⟩
  · intro hnone k hk
    exact ofContent?_of_read?_eq_none hk ((Placement.read?_eq_none_iff hs).2 hnone)

/-- A line with a tab in front of the home, two blanks behind it, and brackets on both sides. -/
def crooked : List Char := "t1\t[Back [office]  ] (a (b)) c".toList

/-- A cut of that line that leaves one of the blanks to the text. -/
def crookedPlacement : Placement :=
  ⟨"t1".toList, "Back [office".toList, [' '], " ] (a (b)) c".toList⟩

/-- The line is an element for all five keywords. -/
theorem ofContent?_alike_crooked :
    (IsTrimmed crooked ∧ '\n' ∉ crooked ∧ crookedPlacement.Fits crooked) ∧
      ∀ k ∈ Keyword.ofElements, ∃ e, Record.ofContent? k crooked = some (.element e) ∧
        e.id = "t1" ∧ e.home = "Back [office" := by
  have htrimmed : IsTrimmed crooked := by decide
  have hline : '\n' ∉ crooked := by decide
  have hfits : crookedPlacement.Fits crooked :=
    { cut := ⟨['\t'], by decide, by decide⟩
      id := by decide
      home_ne := by decide
      bracket := by decide
      gap := by decide
      text_ne := by decide }
  refine ⟨⟨htrimmed, hline, hfits⟩, fun k hk => ?_⟩
  obtain ⟨e, he, hid, hhome⟩ := (ofContent?_alike htrimmed hline).1 crookedPlacement hfits k hk
  exact ⟨e, he, hid.trans (by decide), hhome.trans (by decide)⟩

end Swimlane.Notation
