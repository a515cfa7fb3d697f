import Swimlane.Proofs.Notation.Locality
import Swimlane.Proofs.Notation.Reading

/-!
# There and back

Every document whose records can be written down is the document of what is written, in whatever
order its lists are mixed.

- `Notation.isPhrase_written`: a written record is a line.
- `Notation.declared?_written`: a written record is read back from its line.
- `Notation.records_written`: written records are read back one by one.
- `Notation.parse_written`: a document is read back.
-/

namespace Swimlane.Notation

open Swimlane.Text

/-! ### A written record is a line -/

theorem isPhrase_keyword (k : Keyword) : IsPhrase k.text.toList := by
  cases k <;> decide

theorem isPhrase_arrow (a : Arrow) : IsPhrase a.text := by
  cases a <;> decide

theorem IsIdentifier.phrase {s : String} (h : IsIdentifier s) : IsPhrase s.toList :=
  isPhrase_of_isWord h.ne h.word

/-- What encloses a text without line breaks can follow a phrase. -/
theorem isPhrase_enclosed {a inner : List Char} (ha : IsPhrase a) {opening closing : Char}
    (hinner : Unbroken inner) (hopening : isLineBreak opening = false)
    (hclosing : IsPhrase [closing]) :
    IsPhrase (a ++ ' ' :: opening :: (inner ++ [closing])) := by
  have hbetween : Unbroken (' ' :: opening :: inner) := by
    intro c hc
    rcases List.mem_cons.1 hc with rfl | hc
    · decide
    · rcases List.mem_cons.1 hc with rfl | hc
      · exact hopening
      · exact hinner c hc
  exact ha.join hclosing hbetween

theorem isPhrase_append_qualifierText {a : List Char} (ha : IsPhrase a) {q : Option String}
    (hq : ∀ s ∈ q, Unbroken s.toList) : IsPhrase (a ++ (qualifierText q).toList) := by
  cases q with
  | none =>
    rw [qualifierText, String.toList_empty, List.append_nil]
    exact ha
  | some q =>
    rw [toList_qualifierText_some]
    exact isPhrase_enclosed ha (hq q rfl) (by decide) (by decide)

theorem isPhrase_append_labelText {a : List Char} (ha : IsPhrase a) {l : Option String}
    (hl : ∀ s ∈ l, Unbroken s.toList) : IsPhrase (a ++ (labelText l).toList) := by
  cases l with
  | none =>
    rw [labelText, String.toList_empty, List.append_nil]
    exact ha
  | some l =>
    rw [toList_labelText_some]
    exact isPhrase_enclosed ha (hl l rfl) (by decide) (by decide)

/-- No line break is written in a qualifier. -/
theorem unbroken_qualifier {e : Element} (h : Styled e) :
    ∀ q ∈ qualifier e, Unbroken q.toList := by
  intro q hq
  cases hkind : e.kind with
  | activity =>
    obtain ⟨-, -, ⟨v, hv, hvariant, -⟩, -, hmarkers⟩ := h.activity hkind
    rw [qualifier, hkind, Option.mem_def.1 hv] at hq
    obtain rfl : ", ".intercalate (v :: e.markers) = q := Option.some.inj hq
    rw [String.toList_intercalate, List.map_cons]
    refine (IsPhrase.intercalate (by decide) (List.cons_ne_nil _ _) fun part hpart => ?_).unbroken
    rcases List.mem_cons.1 hpart with rfl | hpart
    · exact hvariant.phrase
    · obtain ⟨m, hm, rfl⟩ := List.mem_map.1 hpart
      exact (isOption_of_mem_taskMarkers (hmarkers m hm)).1.phrase
  | event =>
    rw [qualifier, hkind] at hq
    exact ((h.event hkind).2.1 q hq).phrase.unbroken
  | decision =>
    obtain ⟨-, ⟨v, hv, hvariant⟩, -⟩ := h.decision hkind
    rw [qualifier, hkind] at hq
    obtain rfl : v = q := Option.mem_unique hv hq
    exact hvariant.phrase.unbroken
  | data => rw [qualifier, hkind] at hq; cases hq
  | note => rw [qualifier, hkind] at hq; cases hq

theorem isPhrase_content {r : Record} (h : r.Expressible) : IsPhrase r.content.toList := by
  cases r with
  | pool p => exact h
  | lane l =>
    obtain ⟨⟨hpool, -⟩, hname, -⟩ := h
    rw [toList_content_lane, List.append_assoc]
    have hgap : Unbroken [' ', '>', ' '] := by decide
    exact hpool.join hname hgap
  | element e =>
    obtain ⟨hid, ⟨hhome, -⟩, hlabel, hstyled⟩ := h
    rw [toList_content_element]
    have hcaption := isPhrase_append_qualifierText hlabel (unbroken_qualifier hstyled)
    have hopen : Unbroken [' ', '['] := by decide
    have hclose : Unbroken [']', ' '] := by decide
    exact hid.phrase.join (hhome.join hcaption hclose) hopen
  | connection c =>
    obtain ⟨hsource, htarget, hlabel⟩ := h
    rw [toList_content_connection]
    have hend := isPhrase_append_labelText htarget.phrase fun l hl => (hlabel l hl).1.unbroken
    have hspace : Unbroken [' '] := by decide
    exact hsource.phrase.join ((isPhrase_arrow c.kind.arrow).join hend hspace) hspace

theorem toList_written (r : Record) :
    r.written.toList = r.keyword.text.toList ++ ([' '] ++ r.content.toList) := by
  simp [Record.written]

/-- A written record can stand in a line. -/
theorem isPhrase_written {r : Record} (h : r.Expressible) : IsPhrase r.written.toList := by
  rw [toList_written]
  exact (isPhrase_keyword r.keyword).join (isPhrase_content h) (by decide)

/-! ### The record of a line -/

/-- A written record is read back from its line. -/
theorem declared?_written {r : Record} (h : r.Expressible) :
    declared? r.written.toList = some r := by
  have htrim : trim r.written.toList = r.written.toList := (isPhrase_written h).trimmed
  have hcontent : trim ([' '] ++ r.content.toList) = r.content.toList :=
    (trim_append_of_blank isBlank_of_mem_space _).trans (isPhrase_content h).trimmed
  rw [declared?, htrim, toList_written, Record.ofLine?_append, hcontent, ofContent?_content h]

/-! ### All records -/

theorem lines_written {rs : List Record} (h : ∀ r ∈ rs, r.Expressible) :
    lines (written rs).toList = rs.map fun r => r.written.toList := by
  rw [written, String.toList_intercalate, List.map_map]
  refine lines_intercalate fun part hpart => ?_
  obtain ⟨r, hr, rfl⟩ := List.mem_map.1 hpart
  exact isPhrase_written (h r hr)

/-- Written records are read back one by one. -/
theorem records_written {rs : List Record} (h : ∀ r ∈ rs, r.Expressible) :
    records (written rs).toList = rs := by
  rw [records_eq_filterMap, lines_written h]
  induction rs with
  | nil => rfl
  | cons r rs ih =>
    rw [List.map_cons, List.filterMap_cons_some (declared?_written (h r (.head _))),
      ih fun r hr => h r (.tail _ hr)]

/-- No line of written records is dropped. -/
theorem droppedLines_written {rs : List Record} (h : ∀ r ∈ rs, r.Expressible) :
    droppedLines (written rs) = [] := by
  rw [droppedLines_eq, lines_written h]
  generalize 1 = first
  induction rs generalizing first with
  | nil => rfl
  | cons r rs ih =>
    have hsome : declared? r.written.toList ≠ none := by
      rw [declared?_written (h r (.head _))]
      exact Option.some_ne_none r
    rw [List.map_cons, droppedFrom_cons, ih (fun r hr => h r (.tail _ hr)), droppedLine,
      if_neg fun hline => hsome hline.2]
    rfl

end Swimlane.Notation

namespace Swimlane

open Notation

namespace Document

/-! ### All orders -/

variable {d : Document} {rs : List Record}

/-- The records of a document in any order are sorted into its lists again. -/
theorem ListedBy.documentOf_eq (h : d.ListedBy rs) : documentOf rs = d := by
  induction h with
  | nil => rfl
  | pool p _ ih => rw [← ih]; rfl
  | lane l _ ih => rw [← ih]; rfl
  | element e _ ih => rw [← ih]; rfl
  | connection c _ ih => rw [← ih]; rfl

theorem listedBy_documentOf (rs : List Record) : (documentOf rs).ListedBy rs := by
  induction rs with
  | nil => exact .nil
  | cons r rs ih =>
    cases r with
    | pool p => exact .pool p ih
    | lane l => exact .lane l ih
    | element e => exact .element e ih
    | connection c => exact .connection c ih

/-- Every document has its records in some order. -/
theorem exists_listedBy (d : Document) : ∃ rs, d.ListedBy rs := by
  let rs := d.pools.map Record.pool ++ d.lanes.map Record.lane ++
    d.elements.map Record.element ++ d.connections.map Record.connection
  have hrs : documentOf rs = d := by
    simp [rs, documentOf, List.filterMap_append, List.filterMap_map]
  exact ⟨rs, hrs ▸ listedBy_documentOf rs⟩

/-- The records of a document can be written down if the document can. -/
theorem ListedBy.expressible (h : d.ListedBy rs) (hd : d.Expressible) :
    ∀ r ∈ rs, r.Expressible := by
  intro r hr
  obtain rfl := h.documentOf_eq
  cases r with
  | pool p => exact hd.pools p (List.mem_filterMap.2 ⟨_, hr, rfl⟩)
  | lane l => exact hd.lanes l (List.mem_filterMap.2 ⟨_, hr, rfl⟩)
  | element e => exact hd.elements e (List.mem_filterMap.2 ⟨_, hr, rfl⟩)
  | connection c => exact hd.connections c (List.mem_filterMap.2 ⟨_, hr, rfl⟩)

end Document

namespace Notation

/-- **There and back**: a document that can be written down can be listed, and however its lists are
mixed, what is written is read as that document, and no line of it is dropped. -/
theorem parse_written {d : Document} (hd : d.Expressible) :
    (∃ rs, d.ListedBy rs) ∧
      ∀ rs, d.ListedBy rs → parse (written rs) = d ∧ droppedLines (written rs) = [] := by
  refine ⟨d.exists_listedBy, fun rs h => ?_⟩
  have hrs := h.expressible hd
  constructor
  · rw [parse, records_written hrs, h.documentOf_eq]
  · exact droppedLines_written hrs

/-- A document whose texts are full of marks that other parts of a line end at. -/
def marked : Document where
  pools := [⟨"Office #1: > [sales]"⟩, ⟨"# (archive)"⟩]
  lanes := [⟨"Office #1:", "[desk] (a)"⟩]
  elements :=
    [⟨"t1", "Office > [desk", "Check) it] -> [now", .activity, some "service (remote", ["loop"]⟩,
      ⟨"start", "flow: a", "# 1", .event, none, []⟩,
      ⟨"wait", "b", "Wait, then go", .event, some "timer (5", []⟩,
      ⟨"g", "b", "All > 2?", .decision, some "a, b [", []⟩,
      ⟨"d", "b", "Form (signed) #2", .data, none, []⟩,
      ⟨"n", "b", "(", .note, none, []⟩]
  connections :=
    [⟨"t1", "g", some "[no > (yes) #", .message⟩, ⟨"g", "g", none, .association⟩,
      ⟨"start", "end", some "(", .sequence⟩]

theorem marked_expressible : marked.Expressible where
  pools := by decide
  lanes := by decide
  elements := by decide
  connections := by decide

/-- The marks in the texts of a document do not keep it from being read back. -/
theorem parse_written_marked :
    marked.Expressible ∧ (∃ rs, marked.ListedBy rs) ∧
      ∀ rs, marked.ListedBy rs → parse (written rs) = marked ∧ droppedLines (written rs) = [] :=
  ⟨marked_expressible, parse_written marked_expressible⟩

end Notation

end Swimlane
