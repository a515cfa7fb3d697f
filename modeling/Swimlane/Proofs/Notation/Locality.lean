import Mathlib.Logic.Relation
import Swimlane.Notation.Parser
import Swimlane.Proofs.Text.Blank
import Swimlane.Proofs.Text.Lines

/-!
# Line by line

What a text declares is what its lines declare, each on its own. So a text that is put together from
two has the records of both, and lines that declare nothing, indentation and the kind of line breaks
make no difference.

- `Document.append`, `Document.size`: documents one after the other, and how many records there are.
- `Notation.records_append`, `Notation.records_append_isBreak`: the records of a text that is cut at
  a line.
- `Notation.ReadsByLine`: a text that is read one line after another.
- `Notation.Edit`: a change of a text that leaves its records as they are.
- `Notation.parse_byLine`: every text is read line by line.
-/

namespace Swimlane

namespace Document

/-- Two documents one after the other, list by list. -/
def append (d d' : Document) : Document where
  pools := d.pools ++ d'.pools
  lanes := d.lanes ++ d'.lanes
  elements := d.elements ++ d'.elements
  connections := d.connections ++ d'.connections

instance : Append Document := ⟨append⟩

/-- The number of records in the four lists. -/
def size (d : Document) : Nat :=
  d.pools.length + d.lanes.length + d.elements.length + d.connections.length

end Document

namespace Notation

open Swimlane.Text

/-! ### Records -/

theorem documentOf_append (rs rs' : List Record) :
    documentOf (rs ++ rs') = documentOf rs ++ documentOf rs' := by
  simp only [documentOf, List.filterMap_append]
  rfl

/-- Every record is in exactly one of the four lists. -/
theorem size_documentOf (rs : List Record) : (documentOf rs).size = rs.length := by
  induction rs with
  | nil => rfl
  | cons r rs ih =>
    rw [List.length_cons, ← ih]
    cases r <;>
      simp only [Document.size, documentOf, List.filterMap_cons, List.length_cons] <;>
      omega

/-- Blank lines and comments declare nothing. -/
theorem ofLine?_of_isSilent {line : List Char} (h : isSilent line = true) :
    Record.ofLine? line = none := by
  cases line with
  | nil => rfl
  | cons c rest =>
    obtain rfl : c = commentMark := by simpa [isSilent] using h
    rfl

/-- What a line declares when the blanks around it are taken away. -/
def declared? (line : List Char) : Option Record := Record.ofLine? (trim line)

theorem records_eq_filterMap (text : List Char) :
    records text = (lines text).filterMap declared? := by
  rw [records, contentLines]
  generalize 1 = first
  induction lines text generalizing first with
  | nil => rfl
  | cons line rest ih =>
    rw [numberedContent]
    cases hsilent : isSilent (trim line) with
    | true =>
      have hnone : declared? line = none := ofLine?_of_isSilent hsilent
      rw [if_pos rfl, List.filterMap_cons_none hnone, ih]
    | false =>
      rw [if_neg Bool.false_ne_true, List.filterMap_cons, List.filterMap_cons, ih]
      rfl

/-- A text that is cut where a line starts has the records of its parts. -/
theorem records_append {a : List Char} (ha : StartsLine a) (b : List Char) :
    records (a ++ b) = records a ++ records b := by
  obtain ⟨ls, hlines, hb⟩ := exists_lines_append ha b
  rw [records_eq_filterMap, hlines, List.filterMap_append, ← records_eq_filterMap]
  congr 1
  -- the line that may be missing is empty
  rcases hb with hb | hb
  · rw [records_eq_filterMap, hb]
  · rw [records_eq_filterMap, hb, List.filterMap_cons_none rfl]

/-- A line break at the end adds no record. -/
theorem records_append_isBreak (a : List Char) {brk : List Char} (hbrk : IsBreak brk) :
    records (a ++ brk) = records a := by
  rw [records_eq_filterMap, records_eq_filterMap]
  rcases lines_append_isBreak a hbrk with h | h
  · rw [h]
  · rw [h, List.filterMap_append]
    exact List.append_nil _

/-- A text in one line has the record of that line. -/
theorem records_unbroken {line : List Char} (h : Unbroken line) :
    records line = (declared? line).toList := by
  by_cases hne : line = []
  · subst hne
    rfl
  · rw [records_eq_filterMap, lines_unbroken h hne]
    cases hd : declared? line with
    | none => rw [List.filterMap_cons_none hd]; rfl
    | some r => rw [List.filterMap_cons_some hd]; rfl

/-! ### Numbers of lines -/

/-- The numbers of the lines that declare nothing, counted from `first`. -/
def droppedFrom (first : Nat) (ls : List (List Char)) : List Nat :=
  ((numberedContent first ls).filter fun line => (Record.ofLine? line.2).isNone).map (·.1)

/-- The number of a line that declares nothing although it is no blank line or comment. -/
def droppedLine (number : Nat) (line : List Char) : List Nat :=
  if isSilent (trim line) = false ∧ declared? line = none then [number] else []

theorem droppedFrom_cons (first : Nat) (line : List Char) (rest : List (List Char)) :
    droppedFrom first (line :: rest) = droppedLine first line ++ droppedFrom (first + 1) rest := by
  unfold droppedFrom droppedLine
  rw [numberedContent]
  cases hsilent : isSilent (trim line) with
  | true => rfl
  | false =>
    cases hdeclared : declared? line with
    | none =>
      have hnone : Record.ofLine? (trim line) = none := hdeclared
      simp [hnone]
    | some r =>
      have hsome : Record.ofLine? (trim line) = some r := hdeclared
      simp [hsome]

theorem droppedFrom_append (first : Nat) (ls ls' : List (List Char)) :
    droppedFrom first (ls ++ ls') =
      droppedFrom first ls ++ droppedFrom (first + ls.length) ls' := by
  induction ls generalizing first with
  | nil => rfl
  | cons line ls ih =>
    rw [List.cons_append, droppedFrom_cons, ih, droppedFrom_cons, List.append_assoc,
      List.length_cons, Nat.add_assoc, Nat.add_comm 1]

theorem droppedLine_add (number shift : Nat) (line : List Char) :
    droppedLine (number + shift) line = (droppedLine number line).map (· + shift) := by
  unfold droppedLine
  split <;> rfl

/-- Counted from further on, all numbers grow alike. -/
theorem droppedFrom_add (first shift : Nat) (ls : List (List Char)) :
    droppedFrom (first + shift) ls = (droppedFrom first ls).map (· + shift) := by
  induction ls generalizing first with
  | nil => rfl
  | cons line ls ih =>
    rw [droppedFrom_cons, droppedFrom_cons, List.map_append, droppedLine_add, ← ih,
      Nat.add_right_comm]

theorem droppedLines_eq (text : String) : droppedLines text = droppedFrom 1 (lines text.toList) :=
  rfl

/-- A text in one line drops that line or none. -/
theorem droppedLines_unbroken {line : List Char} (h : Unbroken line) :
    droppedLines (String.ofList line) = droppedLine 1 line := by
  rw [droppedLines_eq, String.toList_ofList]
  by_cases hne : line = []
  · subst hne
    rfl
  · rw [lines_unbroken h hne, droppedFrom_cons]
    exact List.append_nil _

/-! ### A text and its lines -/

/-- A text that is read line by line: its document is that of its lines one after another, and the
lines that are dropped are those that are dropped on their own. Each line that is neither blank nor
a comment adds one record to one list, or is dropped. -/
structure ReadsByLine (text : String) : Prop where
  document : parse text =
    ((lines text.toList).map fun line => parse (String.ofList line)).foldr (· ++ ·) .empty
  dropped : droppedLines text = (lines text.toList).zipIdx.flatMap fun line =>
    (droppedLines (String.ofList line.1)).map (· + line.2)
  content : ∀ line ∈ lines text.toList, isSilent (trim line) = false →
    (parse (String.ofList line)).size + (droppedLines (String.ofList line)).length = 1
  silent : ∀ line ∈ lines text.toList, isSilent (trim line) = true →
    (parse (String.ofList line)).size + (droppedLines (String.ofList line)).length = 0

theorem parse_unbroken {line : List Char} (h : Unbroken line) :
    parse (String.ofList line) = documentOf (declared? line).toList := by
  rw [parse, String.toList_ofList, records_unbroken h]

/-- A line on its own adds one record or is dropped, unless it is a blank line or a comment. -/
theorem size_add_length_unbroken {line : List Char} (h : Unbroken line) :
    (parse (String.ofList line)).size + (droppedLines (String.ofList line)).length =
      if isSilent (trim line) then 0 else 1 := by
  rw [parse_unbroken h, size_documentOf, droppedLines_unbroken h, droppedLine]
  cases hsilent : isSilent (trim line) with
  | true =>
    have hnone : declared? line = none := ofLine?_of_isSilent hsilent
    rw [hnone]
    rfl
  | false =>
    cases hdeclared : declared? line with
    | none => rfl
    | some r => rfl

theorem document_of_lines {ls : List (List Char)} (h : ∀ line ∈ ls, Unbroken line) :
    documentOf (ls.filterMap declared?) =
      (ls.map fun line => parse (String.ofList line)).foldr (· ++ ·) .empty := by
  induction ls with
  | nil => rfl
  | cons line ls ih =>
    have hline : (line :: ls).filterMap declared? =
        (declared? line).toList ++ ls.filterMap declared? := by
      cases hd : declared? line with
      | none => rw [List.filterMap_cons_none hd]; rfl
      | some r => rw [List.filterMap_cons_some hd]; rfl
    rw [hline, documentOf_append, ih fun l hl => h l (.tail _ hl), List.map_cons, List.foldr_cons,
      parse_unbroken (h line (.head _))]

theorem dropped_of_lines {ls : List (List Char)} (h : ∀ line ∈ ls, Unbroken line) (before : Nat) :
    droppedFrom (1 + before) ls = (ls.zipIdx before).flatMap fun line =>
      (droppedLines (String.ofList line.1)).map (· + line.2) := by
  induction ls generalizing before with
  | nil => rfl
  | cons line ls ih =>
    rw [droppedFrom_cons, List.zipIdx_cons, List.flatMap_cons,
      droppedLines_unbroken (h line (.head _)), ← droppedLine_add, Nat.add_assoc,
      ih fun l hl => h l (.tail _ hl)]

theorem readsByLine (text : String) : ReadsByLine text where
  document := by
    rw [parse, records_eq_filterMap]
    exact document_of_lines fun line => unbroken_of_mem_lines
  dropped := by
    rw [droppedLines_eq]
    exact dropped_of_lines (fun line => unbroken_of_mem_lines) 0
  content := by
    intro line hline hcontent
    rw [size_add_length_unbroken (unbroken_of_mem_lines hline), hcontent]
    rfl
  silent := by
    intro line hline hsilent
    rw [size_add_length_unbroken (unbroken_of_mem_lines hline), if_pos hsilent]

/-! ### Two texts -/

theorem startsLine_append_newline (a : String) : StartsLine (a ++ "\n").toList := by
  rw [String.toList_append]
  exact isBreak_newline.startsLine_append _

/-- The records of two texts joined by a line feed are those of the first and those of the
second. -/
theorem parse_append_newline (a b : String) : parse (a ++ "\n" ++ b) = parse a ++ parse b := by
  have hbreak : records (a ++ "\n").toList = records a.toList := by
    rw [String.toList_append]
    exact records_append_isBreak _ isBreak_newline
  rw [parse, String.toList_append, records_append (startsLine_append_newline a), hbreak,
    documentOf_append]
  rfl

/-- The dropped lines of two texts joined by a line feed are those of the first and those of the
second, which are counted behind the lines of the first. -/
theorem droppedLines_append_newline (a b : String) :
    droppedLines (a ++ "\n" ++ b) =
      droppedLines a ++ (droppedLines b).map (· + (lines (a ++ "\n").toList).length) := by
  have hseam : (a ++ "\n").toList.getLast? = some '\r' → b.toList.head? ≠ some '\n' := by
    intro h
    simp at h
  have hfirst : droppedFrom 1 (lines (a ++ "\n").toList) = droppedLines a := by
    rw [String.toList_append, droppedLines_eq]
    rcases lines_append_isBreak a.toList isBreak_newline with h | h
    · exact congrArg _ h
    · have hempty : droppedFrom 1 (lines a.toList ++ [[]]) = droppedFrom 1 (lines a.toList) := by
        rw [droppedFrom_append]
        exact List.append_nil _
      exact (congrArg _ h).trans hempty
  rw [droppedLines_eq, String.toList_append, lines_append (startsLine_append_newline a) hseam,
    droppedFrom_append, hfirst, droppedFrom_add, droppedLines_eq b]

/-! ### Changes that do not matter -/

/-- A line that declares nothing: a blank line, a comment, or one that follows no rule. -/
def IsVoid (line : List Char) : Prop :=
  Unbroken line ∧ (isSilent (trim line) = true ∨ Record.ofLine? (trim line) = none)

/-- A change of a text that leaves its records as they are. -/
inductive Edit : String → String → Prop where
  /-- A line that declares nothing is put in front of another line. -/
  | addLine {before line brk after : String} (start : StartsLine before.toList)
      (void : IsVoid line.toList) (ends : IsBreak brk.toList) :
      Edit (before ++ after) (before ++ line ++ brk ++ after)
  /-- A line that declares nothing is put behind the last line. -/
  | addLast {before line : String} (start : StartsLine before.toList) (void : IsVoid line.toList) :
      Edit before (before ++ line)
  /-- The last line is ended by a break. -/
  | endLast {before brk : String} (ends : IsBreak brk.toList) : Edit before (before ++ brk)
  /-- A line is indented. -/
  | indent {before blanks after : String} (start : StartsLine before.toList)
      (blank : ∀ c ∈ blanks.toList, isBlank c = true) (unbroken : Unbroken blanks.toList) :
      Edit (before ++ after) (before ++ blanks ++ after)
  /-- A line break is replaced by another one. -/
  | replaceBreak {before brk brk' after : String} (ends : IsBreak brk.toList)
      (ends' : IsBreak brk'.toList) : Edit (before ++ brk ++ after) (before ++ brk' ++ after)

theorem declared?_of_isVoid {line : List Char} (h : IsVoid line) : declared? line = none := by
  rcases h.2 with hsilent | hnone
  · exact ofLine?_of_isSilent hsilent
  · exact hnone

theorem records_of_isVoid {line : List Char} (h : IsVoid line) : records line = [] := by
  rw [records_unbroken h.1, declared?_of_isVoid h]
  rfl

/-- Indentation makes no difference to what a text declares. -/
theorem records_indent {blanks : List Char} (hblank : ∀ c ∈ blanks, isBlank c = true)
    (hunbroken : Unbroken blanks) (text : List Char) : records (blanks ++ text) = records text := by
  rw [records_eq_filterMap, records_eq_filterMap, lines_unbroken_append hunbroken]
  cases lines text with
  | nil =>
    by_cases hne : blanks = []
    · subst hne
      rfl
    · -- nothing is indented, but there is a line of blanks now
      have hblanks : trim blanks = [] := by
        have htrim := trim_append_of_blank hblank []
        rwa [List.append_nil] at htrim
      have hnone : declared? blanks = none := by
        rw [declared?, hblanks]
        rfl
      rw [joinFront_nil hne, List.filterMap_cons_none hnone]
  | cons line ls =>
    have hline : declared? (blanks ++ line) = declared? line := by
      rw [declared?, trim_append_of_blank hblank, declared?]
    rw [joinFront_cons, List.filterMap_cons, List.filterMap_cons, hline]

/-- A change of this kind leaves the records as they are. -/
theorem Edit.records_eq {s t : String} (h : Edit s t) : records s.toList = records t.toList := by
  cases h with
  | @addLine before line brk after start void ends =>
    have hstart := ends.startsLine_append (before.toList ++ line.toList)
    simp only [String.toList_append]
    rw [records_append start, records_append hstart, records_append_isBreak _ ends,
      records_append start, records_of_isVoid void, List.append_nil]
  | @addLast _ line start void =>
    rw [String.toList_append, records_append start, records_of_isVoid void, List.append_nil]
  | @endLast _ brk ends => rw [String.toList_append, records_append_isBreak _ ends]
  | @indent before blanks after start blank unbroken =>
    simp only [String.toList_append]
    rw [List.append_assoc, records_append start, records_append start,
      records_indent blank unbroken]
  | @replaceBreak before brk brk' after ends ends' =>
    simp only [String.toList_append]
    rw [records_append (ends.startsLine_append _), records_append (ends'.startsLine_append _),
      records_append_isBreak _ ends, records_append_isBreak _ ends']

/-- **Line by line**: a text is read one line after another. Two texts joined by a line feed have
the records of the first followed by those of the second, and the dropped lines of both, with those
of the second counted behind the lines of the first. Lines that declare nothing, indentation and the
kind of line breaks make no difference to the records, however often they change. -/
theorem parse_byLine :
    (∀ text, ReadsByLine text) ∧
      (∀ a b : String, parse (a ++ "\n" ++ b) = parse a ++ parse b ∧
        droppedLines (a ++ "\n" ++ b) =
          droppedLines a ++ (droppedLines b).map (· + (lines (a ++ "\n").toList).length)) ∧
      ∀ s t : String, Relation.EqvGen Edit s t → parse s = parse t := by
  refine ⟨readsByLine, fun a b => ⟨parse_append_newline a b, droppedLines_append_newline a b⟩, ?_⟩
  intro s t h
  induction h with
  | rel s t h => rw [parse, h.records_eq, parse]
  | refl s => rfl
  | symm s t _ ih => exact ih.symm
  | trans s t u _ _ ih ih' => exact ih.trans ih'

-- a line feed behind a carriage return ends the same line
example : droppedLines "pool: P\r\nnonsense\x0b\n# note\nlane" = [2, 5] := by decide

end Notation

end Swimlane
