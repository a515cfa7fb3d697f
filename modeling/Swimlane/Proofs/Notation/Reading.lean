import Swimlane.Proofs.Notation.FlowLine
import Swimlane.Proofs.Notation.Qualifier
import Swimlane.Proofs.Notation.Writing

/-!
# Lines read back

Each part of a written line is read as what was written: nothing in it is taken for the mark that
ends it, and the text behind it does not belong to it.

- `Notation.options_intercalate`: options between commas.
- `Notation.read?_content`, `Notation.fits_content`: the parts of an element and of a flow.
- `Notation.ofContent?_content`: what stands behind the keyword of a line.
-/

namespace Swimlane.Notation

open Swimlane.Text

/-! ### What is written -/

theorem toList_content_lane (l : Lane) :
    (Record.content (.lane l)).toList =
      (l.pool.toList ++ [' ']) ++ '>' :: ([' '] ++ l.name.toList) := by
  simp [Record.content]

/-- The parts of the line of an element. -/
def placementOf (e : Element) : Placement :=
  ⟨e.id.toList, e.home.toList, [' '], e.label.toList ++ (qualifierText (qualifier e)).toList⟩

theorem toList_content_element (e : Element) :
    (Record.content (.element e)).toList = (placementOf e).content := by
  simp [Record.content, Placement.content, placementOf]

theorem toList_content_connection (c : Connection) :
    (Record.content (.connection c)).toList = c.source.toList ++ ' ' ::
      (c.kind.arrow.text ++ ' ' :: (c.target.toList ++ (labelText c.label).toList)) := by
  simp [Record.content]

theorem toList_qualifierText_some (q : String) :
    (qualifierText (some q)).toList = ' ' :: '(' :: (q.toList ++ [')']) := by
  simp [qualifierText]

theorem toList_labelText_some (l : String) :
    (labelText (some l)).toList = ' ' :: '[' :: (l.toList ++ [']']) := by
  simp [labelText]

/-- A label is read with the qualifier that is written behind it. -/
theorem Placement.qualified?_written {p : Placement} {label : List Char} {q : Option String}
    (htext : p.text = label ++ (qualifierText q).toList) (hlabel : IsPhrase label)
    (hopen : '(' ∉ label) (hclose : ∀ s ∈ q, ')' ∉ s.toList) :
    p.qualified? = some ⟨label, q.map (·.toList)⟩ := by
  cases q with
  | none =>
    have htext : p.text = label := by rw [htext]; exact List.append_nil _
    rw [p.qualified?_of_not_mem (htext ▸ hopen), htext]
    rfl
  | some q =>
    rw [toList_qualifierText_some] at htext
    have hends : EndsQualified p.text (label ++ [' ']) q.toList :=
      { cut := by rw [htext, List.append_assoc]; rfl
        opening := by simp [hopen]
        closing := hclose q rfl }
    have htrim : trim (label ++ [' ']) = label :=
      hlabel.trimmed.trim_append_of_blank isBlank_of_mem_space
    rw [p.qualified?_of_endsQualified hends (.inl (by simp)), htrim]
    rfl

/-! ### Options -/

theorem splitAt_of_not_mem {separator : Char} {s : List Char} (h : separator ∉ s) :
    splitAt separator s = [s] := by
  induction s with
  | nil => rfl
  | cons c s ih =>
    obtain ⟨hc, hs⟩ := not_or.1 (List.mem_cons.not.1 h)
    rw [splitAt, if_neg (Ne.symm hc), ih hs]

theorem splitAt_append {separator : Char} {s : List Char} (h : separator ∉ s) (rest : List Char) :
    splitAt separator (s ++ separator :: rest) = s :: splitAt separator rest := by
  induction s with
  | nil => exact if_pos rfl
  | cons c s ih =>
    obtain ⟨hc, hs⟩ := not_or.1 (List.mem_cons.not.1 h)
    rw [List.cons_append, splitAt, if_neg (Ne.symm hc), ih hs]

/-- A text that is an option of a qualifier. -/
structure IsOption (s : String) : Prop where
  phrase : IsPhrase s.toList
  lower : lowered s = s
  comma : ',' ∉ s.toList

/-- What an option of a qualifier is read as. -/
def optionOf? (part : List Char) : Option String :=
  let token := lower (trim part)
  if token = [] then none else some (String.ofList token)

theorem options_some (s : List Char) : options (some s) = (splitAt ',' s).filterMap optionOf? := by
  rw [options, List.filterMap_map]
  rfl

/-- An option is read back, also with blanks in front, and no comma ends it too early. -/
theorem IsOption.read {s : String} (h : IsOption s) {lead : List Char}
    (hlead : ∀ c ∈ lead, isBlank c = true) :
    optionOf? (lead ++ s.toList) = some s ∧ ',' ∉ lead ++ s.toList := by
  constructor
  · have htrim : trim (lead ++ s.toList) = s.toList :=
      (trim_append_of_blank hlead _).trans h.phrase.trimmed
    have hlower := congrArg String.toList h.lower
    rw [lowered, String.toList_ofList] at hlower
    rw [optionOf?, htrim, hlower, if_neg h.phrase.ne, String.ofList_toList]
  · intro hmem
    rcases List.mem_append.1 hmem with hmem | hmem
    · exact absurd (hlead ',' hmem) (by decide)
    · exact h.comma hmem

/-- Options with commas between them are read back. -/
theorem filterMap_splitAt_intercalate {lead : List Char} (hlead : ∀ c ∈ lead, isBlank c = true)
    {t : String} {rest : List String} (h : ∀ s ∈ t :: rest, IsOption s) :
    (splitAt ',' (lead ++ [',', ' '].intercalate ((t :: rest).map String.toList))).filterMap
      optionOf? = t :: rest := by
  induction rest generalizing t lead with
  | nil =>
    obtain ⟨hread, hcomma⟩ := (h t (.head _)).read hlead
    rw [List.map_singleton, List.intercalate_singleton, splitAt_of_not_mem hcomma,
      List.filterMap_cons_some hread, List.filterMap_nil]
  | cons next rest ih =>
    obtain ⟨hread, hcomma⟩ := (h t (.head _)).read hlead
    -- behind the comma, the next option has a blank in front
    have hrest := ih isBlank_of_mem_space fun s hs => h s (.tail _ hs)
    rw [List.map_cons, List.map_cons, List.intercalate_cons_cons, List.append_assoc,
      ← List.append_assoc lead]
    show (splitAt ',' (lead ++ t.toList ++ ',' :: ([' '] ++ _))).filterMap optionOf? = _
    rw [splitAt_append hcomma, List.filterMap_cons_some hread]
    exact congrArg (t :: ·) hrest

/-- The options of a qualifier are read as they are written, with commas between them. -/
theorem options_intercalate {tokens : List String} (hne : tokens ≠ [])
    (h : ∀ t ∈ tokens, IsOption t) : options (some (", ".intercalate tokens).toList) = tokens := by
  obtain ⟨t, rest, rfl⟩ := List.exists_cons_of_ne_nil hne
  rw [options_some, String.toList_intercalate]
  exact filterMap_splitAt_intercalate (List.forall_mem_nil _) h

/-- The words that mark a task are options. -/
theorem isOption_of_mem_taskMarkers {m : String} (h : m ∈ taskMarkers) :
    IsOption m ∧ ')' ∉ m.toList := by
  have hall : ∀ m ∈ taskMarkers, IsPhrase m.toList ∧ lowered m = m ∧ ',' ∉ m.toList ∧
      ')' ∉ m.toList := by decide
  obtain ⟨hphrase, hlower, hcomma, hclose⟩ := hall m h
  exact ⟨⟨hphrase, hlower, hcomma⟩, hclose⟩

/-! ### Elements -/

section

variable {e : Element} (h : (Record.element e).Expressible)

include h

/-- The line of an element is read as its parts. -/
theorem read?_content :
    Placement.read? (Record.content (.element e)).toList = some (placementOf e) := by
  obtain ⟨hid, ⟨hhome, hbracket⟩, hlabel, -⟩ := h
  have hne := List.append_ne_nil_of_left_ne_nil hlabel.ne (qualifierText (qualifier e)).toList
  have hfirst : ∀ c ∈ (e.label.toList ++ (qualifierText (qualifier e)).toList).head?,
      isBlank c = false := by
    intro c hc
    rw [List.head?_append_of_ne_nil _ hlabel.ne] at hc
    exact hlabel.trimmed.head hc
  have hword : IsRun isWord (placementOf e).id := ⟨hid.ne, hid.word⟩
  have hgap : IsRun isBlank (placementOf e).gap := ⟨List.cons_ne_nil _ _, isBlank_of_mem_space⟩
  rw [toList_content_element]
  exact Placement.read?_content hword hhome.ne hbracket hgap hne hfirst

/-- An element is put together again from the parts of its line. -/
theorem elementOf_placementOf (hmarkers : e.markers.Nodup) :
    elementOf (placementOf e) e.label.toList e.kind e.variant e.markers = e := by
  obtain ⟨-, ⟨hhome, -⟩, -, -⟩ := h
  have htrim : trim e.home.toList = e.home.toList := hhome.trimmed
  have hdistinct : distinct e.markers = e.markers := distinctBy_eq_self hmarkers
  rw [elementOf, placementOf, htrim, hdistinct]
  simp only [String.ofList_toList]

/-- The label of an element is read with the qualifier behind it. -/
theorem qualified?_placementOf (hopen : '(' ∉ e.label.toList)
    (hclose : ∀ q ∈ qualifier e, ')' ∉ q.toList) :
    (placementOf e).qualified? = some ⟨e.label.toList, (qualifier e).map (·.toList)⟩ :=
  Placement.qualified?_written rfl h.2.2.1 hopen hclose

end

/-- A variant is read as the subtype that it is. -/
theorem IsVariant.subtype? {v : String} (h : IsVariant v) : subtype? (some v.toList) = some v := by
  have htrim : trim v.toList = v.toList := h.phrase.trimmed
  have hlower := congrArg String.toList h.lower
  rw [lowered, String.toList_ofList] at hlower
  obtain ⟨c, rest, hv⟩ := List.exists_cons_of_ne_nil h.phrase.ne
  rw [Notation.subtype?, Option.getD_some, htrim, hlower, hv]
  show some (String.ofList (c :: rest)) = some v
  rw [← hv, String.ofList_toList]

theorem event?_content {e : Element} (h : (Record.element e).Expressible)
    (hkind : e.kind = .event) : event? (Record.content (.element e)).toList = some e := by
  obtain ⟨hopen, hvariant, hmarkers⟩ := h.2.2.2.event hkind
  have hqualifier : qualifier e = e.variant := by rw [qualifier, hkind]
  have hcaption := Placement.caption?_of_qualified? <|
    qualified?_placementOf h hopen fun q hq => (hvariant q (hqualifier ▸ hq)).closing
  have hsubtype : subtype? ((qualifier e).map (·.toList)) = e.variant := by
    rw [hqualifier]
    cases hv : e.variant with
    | none => rfl
    | some v => exact (hvariant v hv).subtype?
  have helement := elementOf_placementOf h (hmarkers ▸ .nil)
  rw [hkind, hmarkers] at helement
  rw [event?_eq (read?_content h) hcaption, hsubtype, helement]

theorem gateway?_content {e : Element} (h : (Record.element e).Expressible)
    (hkind : e.kind = .decision) : gateway? (Record.content (.element e)).toList = some e := by
  obtain ⟨hopen, ⟨v, hv, hvariant⟩, hmarkers⟩ := h.2.2.2.decision hkind
  rw [Option.mem_def] at hv
  have hqualifier : qualifier e = some v := by rw [qualifier, hkind]; exact hv
  have hclose : ∀ q ∈ qualifier e, ')' ∉ q.toList := by
    rintro q hq
    obtain rfl : v = q := Option.some.inj (hqualifier ▸ hq)
    exact hvariant.closing
  have hcaption := Placement.caption?_of_qualified? (qualified?_placementOf h hopen hclose)
  rw [hqualifier] at hcaption
  have helement := elementOf_placementOf h (hmarkers ▸ .nil)
  rw [hkind, hmarkers, hv] at helement
  rw [gateway?_eq (read?_content h) hcaption, Option.map_some, hvariant.subtype?]
  exact congrArg some helement

theorem plain?_content {e : Element} (h : (Record.element e).Expressible)
    (hkind : e.kind = .data ∨ e.kind = .note) :
    plain? e.kind (Record.content (.element e)).toList = some e := by
  obtain ⟨hvariant, hmarkers⟩ := h.2.2.2.plain hkind
  have hqualifier : qualifier e = none := by
    rcases hkind with hkind | hkind <;> rw [qualifier, hkind]
  have htext : (placementOf e).text = e.label.toList := by
    rw [placementOf, hqualifier]
    exact List.append_nil _
  have hline : '\n' ∉ (placementOf e).text := by
    rw [htext]
    exact fun hmem => absurd (h.2.2.1.unbroken '\n' hmem) (by decide)
  have hplain := Placement.plain?_of_not_mem hline
  rw [htext] at hplain
  have helement := elementOf_placementOf h (hmarkers ▸ .nil)
  rw [hvariant, hmarkers] at helement
  rw [plain?_eq (read?_content h) hplain, helement]

/-- Of a variant and the markers behind it, each is told from the other. -/
theorem taskVariant_cons {v : String} {markers : List String} (hv : v ∉ taskMarkers)
    (h : ∀ m ∈ markers, m ∈ taskMarkers) :
    taskVariant (v :: markers) = v ∧ markersOf (v :: markers) = markers := by
  have hnone : markers.filter (· ∉ taskMarkers) = [] :=
    List.filter_eq_nil_iff.2 fun m hm => by simp [h m hm]
  constructor
  · rw [taskVariant, List.filter_cons_of_pos (by simpa using hv), hnone]
    rfl
  · rw [markersOf, List.filter_cons_of_neg (by simpa using hv)]
    exact List.filter_eq_self.2 fun m hm => decide_eq_true (h m hm)

theorem not_mem_intercalate_of_options {tokens : List String} (h : ∀ t ∈ tokens, ')' ∉ t.toList) :
    ')' ∉ (", ".intercalate tokens).toList := by
  intro hmem
  rw [String.toList_intercalate] at hmem
  rcases mem_intercalate hmem with hmem | ⟨part, hpart, hmem⟩
  · exact absurd hmem (by decide)
  · obtain ⟨t, ht, rfl⟩ := List.mem_map.1 hpart
    exact h t ht hmem

theorem task?_content {e : Element} (h : (Record.element e).Expressible)
    (hkind : e.kind = .activity) : task? (Record.content (.element e)).toList = some e := by
  obtain ⟨hopen, hid, ⟨v, hv, hvariant, hcomma, hmarker⟩, hnodup, hmarkers⟩ :=
    h.2.2.2.activity hkind
  rw [Option.mem_def] at hv
  have hqualifier : qualifier e = some (", ".intercalate (v :: e.markers)) := by
    rw [qualifier, hkind, hv]
    rfl
  have hoptions : ∀ t ∈ v :: e.markers, IsOption t ∧ ')' ∉ t.toList := by
    intro t ht
    rcases List.mem_cons.1 ht with rfl | ht
    · exact ⟨⟨hvariant.phrase, hvariant.lower, hcomma⟩, hvariant.closing⟩
    · exact isOption_of_mem_taskMarkers (hmarkers t ht)
  have hclose : ∀ q ∈ qualifier e, ')' ∉ q.toList := by
    intro q hq
    obtain rfl : ", ".intercalate (v :: e.markers) = q := Option.some.inj (hqualifier ▸ hq)
    exact not_mem_intercalate_of_options fun t ht => (hoptions t ht).2
  have hqualified := qualified?_placementOf h hopen hclose
  have hcaption := Placement.caption?_of_qualified? hqualified
  rw [hqualifier] at hqualified hcaption
  have htokens : options (some (", ".intercalate (v :: e.markers)).toList) = v :: e.markers :=
    options_intercalate (List.cons_ne_nil _ _) fun t ht => (hoptions t ht).1
  obtain ⟨hfirst, hrest⟩ := taskVariant_cons hmarker hmarkers
  have helement := elementOf_placementOf h hnodup
  rw [hkind, hv] at helement
  have hname : String.ofList (placementOf e).id = e.id := String.ofList_toList
  rw [task?_eq (read?_content h) hcaption, hname, if_neg (not_or.2 hid), hqualified]
  simp only [Option.map_some, Option.isSome_some, if_true, htokens, hfirst, hrest, helement]

/-! ### Flows and lanes -/

@[simp] theorem kind_arrow (k : ConnectionKind) : k.arrow.kind = k := by
  cases k <;> rfl

/-- The parts of the line of a connection. -/
def flowLineOf (c : Connection) : FlowLine :=
  ⟨c.source.toList, [' '], c.kind.arrow, [' '], c.target.toList,
    c.label.map fun l => ⟨[' '], l.toList⟩⟩

theorem ending_flowLineOf (c : Connection) :
    FlowLine.ending (flowLineOf c).label = (labelText c.label).toList := by
  rw [flowLineOf]
  cases c.label with
  | none => rfl
  | some l => exact (toList_labelText_some l).symm

/-- The line of a connection is a flow line. -/
theorem fits_content {c : Connection} (h : (Record.connection c).Expressible) :
    (flowLineOf c).Fits (Record.content (.connection c)).toList := by
  obtain ⟨hsource, htarget, hlabel⟩ := h
  refine ⟨?cut, ⟨hsource.ne, hsource.word⟩, isBlank_of_mem_space, isBlank_of_mem_space,
    ⟨htarget.ne, htarget.word⟩, ?gap, ?bracket⟩
  case cut =>
    rw [toList_content_connection, ← ending_flowLineOf]
    rfl
  case gap =>
    intro a ha
    obtain ⟨l, -, rfl⟩ := Option.map_eq_some_iff.1 ha
    exact isBlank_of_mem_space
  case bracket =>
    intro a ha
    obtain ⟨l, hl, rfl⟩ := Option.map_eq_some_iff.1 ha
    exact (hlabel l hl).2

/-- A connection is put together again from the parts of its line. -/
theorem connection_flowLineOf {c : Connection} (h : ∀ l ∈ c.label, IsPhrase l.toList) :
    (flowLineOf c).connection = c := by
  have hcaption : (flowLineOf c).caption? = c.label := by
    rw [FlowLine.caption?, flowLineOf]
    cases hl : c.label with
    | none => rfl
    | some l =>
      have htrim : trim l.toList = l.toList := (h l hl).trimmed
      simp only [Option.map_some, htrim, String.ofList_toList]
      exact if_neg (h l hl).ne
  rw [FlowLine.connection, hcaption, Arrow.arrowKind_text]
  simp only [flowLineOf, String.ofList_toList, kind_arrow]

theorem connection?_content {c : Connection} (h : (Record.connection c).Expressible) :
    connection? (Record.content (.connection c)).toList = some c := by
  rw [(fits_content h).connection?_eq, connection_flowLineOf fun l hl => (h.2.2 l hl).1]

/-- A lane is read as it is written. -/
theorem lane?_content {l : Lane} (h : (Record.lane l).Expressible) :
    lane? (Record.content (.lane l)).toList = some l := by
  obtain ⟨⟨hpool, hpool'⟩, hname, hname'⟩ := h
  have hfront : '>' ∉ l.pool.toList ++ [' '] := by simpa using hpool'
  have hleft : trim (l.pool.toList ++ [' ']) = l.pool.toList :=
    hpool.trimmed.trim_append_of_blank isBlank_of_mem_space
  have hright : trim ([' '] ++ l.name.toList) = l.name.toList :=
    (trim_append_of_blank isBlank_of_mem_space _).trans hname.trimmed
  have hoperands : operands? '>' (Record.content (.lane l)).toList =
      some (l.pool.toList, l.name.toList) := by
    unfold operands?
    simp only [toList_content_lane, takeWhile_append_mark hfront, dropWhile_append_mark hfront,
      hleft, hright]
    refine if_neg ?_
    simp [hname', hpool.ne, hname.ne]
  rw [lane?, hoperands, Option.map_some]
  simp only [String.ofList_toList]

/-- A pool is read as it is written. -/
theorem pool?_content {p : Pool} (h : (Record.pool p).Expressible) :
    pool? (Record.content (.pool p)).toList = some p := by
  have hne : p.name.toList ≠ [] := h.ne
  show pool? p.name.toList = some p
  rw [pool?, if_neg hne, String.ofList_toList]

/-! ### Whole lines -/

/-- What stands behind a keyword is read as it is written. -/
theorem ofContent?_content {r : Record} (h : r.Expressible) :
    Record.ofContent? r.keyword r.content.toList = some r := by
  cases r with
  | pool p => exact congrArg (Option.map Record.pool) (pool?_content h)
  | lane l => exact congrArg (Option.map Record.lane) (lane?_content h)
  | connection c => exact congrArg (Option.map Record.connection) (connection?_content h)
  | element e =>
    show Record.ofContent? e.kind.keyword _ = _
    cases hkind : e.kind with
    | activity => exact congrArg (Option.map Record.element) (task?_content h hkind)
    | event => exact congrArg (Option.map Record.element) (event?_content h hkind)
    | decision => exact congrArg (Option.map Record.element) (gateway?_content h hkind)
    | data =>
      have hplain := plain?_content h (.inl hkind)
      rw [hkind] at hplain
      exact congrArg (Option.map Record.element) hplain
    | note =>
      have hplain := plain?_content h (.inr hkind)
      rw [hkind] at hplain
      exact congrArg (Option.map Record.element) hplain

end Swimlane.Notation
