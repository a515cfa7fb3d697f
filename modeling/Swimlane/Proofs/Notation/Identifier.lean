import Mathlib.Data.List.TakeWhile
import Swimlane.Notation.Parser

/-!
# Identifiers

The identifier of an element that was read from a text is a word.

- `IsWord`: a text of word characters.
- `Reads`: an element that was read from what follows a keyword, under its identifier.
- `isWord_of_mem_parse`: the identifier of every element of a text is a word.
- `IsWord.not_mem_hyphen`: a word has no hyphen.
-/

namespace Swimlane.Notation

open Swimlane.Text

/-- A text of word characters. -/
def IsWord (s : String) : Prop := ∀ c ∈ s.toList, isWord c = true

theorem isWord_hyphen : isWord '-' = false := inRanges_eq_false_of_lt (by decide)

theorem IsWord.not_mem_hyphen {s : String} (h : IsWord s) : '-' ∉ s.toList := by
  intro hmem
  have hword := h '-' hmem
  rw [isWord_hyphen] at hword
  cases hword

/-- What is read as an identifier consists of word characters. -/
theorem Placement.isWord_of_read? {s : List Char} {p : Placement} (h : read? s = some p) :
    IsWord (String.ofList p.id) := by
  have hid : p.id = s.takeWhile isWord := by
    unfold read? at h
    grind
  intro c hc
  rw [String.toList_ofList, hid] at hc
  exact List.mem_takeWhile_imp hc

/-- The element that was read from what follows a keyword, under the identifier in front. It has no
other markers than those of a task. -/
def Reads (s : List Char) (e : Element) : Prop :=
  ∃ p label kind variant markers, Placement.read? s = some p ∧
    (∀ m ∈ markers, m ∈ taskMarkers) ∧ e = elementOf p label kind variant markers

theorem mem_taskMarkers_of_mem_markersOf {tokens : List String} {m : String}
    (h : m ∈ markersOf tokens) : m ∈ taskMarkers :=
  of_decide_eq_true (List.mem_filter.1 h).2

theorem reads_of_task? {s : List Char} {e : Element} (h : task? s = some e) : Reads s e := by
  obtain ⟨p, hp, h⟩ := Option.bind_eq_some_iff.1 h
  obtain ⟨caption, -, h⟩ := Option.bind_eq_some_iff.1 h
  dsimp only at h
  split at h
  · cases h
    exact ⟨p, _, _, _, _, hp, List.forall_mem_nil _, rfl⟩
  · split at h
    · cases h
      exact ⟨p, _, _, _, _, hp, fun _ => mem_taskMarkers_of_mem_markersOf, rfl⟩
    · cases h
      exact ⟨p, _, _, _, _, hp, List.forall_mem_nil _, rfl⟩

theorem reads_of_event? {s : List Char} {e : Element} (h : event? s = some e) : Reads s e := by
  obtain ⟨p, hp, h⟩ := Option.bind_eq_some_iff.1 h
  obtain ⟨caption, -, h⟩ := Option.bind_eq_some_iff.1 h
  cases h
  exact ⟨p, _, _, _, _, hp, List.forall_mem_nil _, rfl⟩

theorem reads_of_gateway? {s : List Char} {e : Element} (h : gateway? s = some e) : Reads s e := by
  obtain ⟨p, hp, h⟩ := Option.bind_eq_some_iff.1 h
  obtain ⟨caption, -, h⟩ := Option.bind_eq_some_iff.1 h
  cases h
  exact ⟨p, _, _, _, _, hp, List.forall_mem_nil _, rfl⟩

theorem reads_of_plain? {kind : ElementKind} {s : List Char} {e : Element}
    (h : plain? kind s = some e) : Reads s e := by
  obtain ⟨p, hp, h⟩ := Option.bind_eq_some_iff.1 h
  obtain ⟨caption, -, h⟩ := Option.bind_eq_some_iff.1 h
  cases h
  exact ⟨p, _, _, _, _, hp, List.forall_mem_nil _, rfl⟩

/-- The element that follows a keyword was read under the identifier in front. -/
theorem Record.reads_of_ofContent? {k : Keyword} {s : List Char} {e : Element}
    (h : ofContent? k s = some (.element e)) : Reads s e := by
  have helement {o : Option Element} (ho : o.map Record.element = some (.element e)) :
      o = some e := by
    obtain ⟨_, he, heq⟩ := Option.map_eq_some_iff.1 ho
    cases heq
    exact he
  cases k with
  | task => exact reads_of_task? (helement h)
  | event => exact reads_of_event? (helement h)
  | gateway => exact reads_of_gateway? (helement h)
  | data | note => exact reads_of_plain? (helement h)
  | pool | lane | flow =>
    obtain ⟨_, -, heq⟩ := Option.map_eq_some_iff.1 h
    cases heq

/-- The identifier of every element of a text is a word. -/
theorem isWord_of_mem_parse {text : String} {e : Element} (he : e ∈ (parse text).elements) :
    IsWord e.id := by
  obtain ⟨r, hr, hre⟩ := List.mem_filterMap.1 he
  obtain ⟨line, -, hline⟩ := List.mem_filterMap.1 hr
  obtain ⟨k, -, hcontent⟩ := Option.bind_eq_some_iff.1 hline
  cases r with
  | element =>
    cases hre
    obtain ⟨p, _, _, _, _, hp, -, rfl⟩ := Record.reads_of_ofContent? hcontent
    exact Placement.isWord_of_read? hp
  | pool | lane | connection => cases hre

end Swimlane.Notation
