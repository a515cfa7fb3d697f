import Mathlib.Data.List.Basic
import Mathlib.Data.List.TakeWhile
import Swimlane.Text.Blank
import Swimlane.Text.Lines
import Swimlane.Text.Word

/-!
# Trimmed texts

- `Text.trim_append_of_blank`, `Text.trim_append_of_blank_right`: blanks in front and blanks behind
  make no difference to what is left.
- `Text.IsTrimmed`: a text without blanks at its ends; `Text.IsTrimmed.join` joins two of them.
- `Text.isBlank_of_isLineBreak`, `Text.isBlank_eq_false_of_isWord`,
  `Text.isWord_eq_false_of_isBlank`: line breaks are blank, and word characters are not.
-/

namespace Swimlane.Text

/-! ### Kinds of characters -/

/-- Line breaks are blank. -/
theorem isBlank_of_isLineBreak {c : Char} (h : isLineBreak c = true) : isBlank c = true := by
  simp only [isLineBreak, isBlank, Bool.or_eq_true, Bool.and_eq_true, decide_eq_true_eq,
    beq_iff_eq] at h ⊢
  omega

theorem isLineBreak_eq_false_of_not_isBlank {c : Char} (h : isBlank c = false) :
    isLineBreak c = false := by
  rw [Bool.eq_false_iff] at h ⊢
  exact fun hbreak => h (isBlank_of_isLineBreak hbreak)

/-- The blanks from U+0080 on. -/
def wideBlanks : List Nat :=
  [0x85, 0xA0, 0x1680, 0x2000, 0x2001, 0x2002, 0x2003, 0x2004, 0x2005, 0x2006, 0x2007, 0x2008,
    0x2009, 0x200A, 0x2028, 0x2029, 0x202F, 0x205F, 0x3000]

/-- A single space is blank. -/
theorem isBlank_of_mem_space : ∀ c ∈ [' '], isBlank c = true :=
  List.forall_mem_singleton.2 (by decide)

/-- Word characters are not blank. -/
theorem isBlank_eq_false_of_isWord {c : Char} (h : isWord c = true) : isBlank c = false := by
  rw [Bool.eq_false_iff]
  intro hblank
  -- the other blanks stand below the first word character, which is the digit zero
  have hrange : c.toNat < 48 ∨ c.toNat ∈ wideBlanks := by
    simp only [isBlank, Bool.or_eq_true, Bool.and_eq_true, decide_eq_true_eq, beq_iff_eq] at hblank
    simp only [wideBlanks, List.mem_cons, List.not_mem_nil, or_false]
    omega
  have hword : isWord c = false := by
    rcases hrange with hlow | hwide
    · exact inRanges_eq_false_of_lt hlow
    · have hnone : ∀ n ∈ wideBlanks, inRanges n wordRanges = false := by decide +kernel
      exact hnone _ hwide
  rw [h] at hword
  cases hword

theorem isWord_eq_false_of_isBlank {c : Char} (h : isBlank c = true) : isWord c = false := by
  rw [Bool.eq_false_iff]
  intro hword
  rw [isBlank_eq_false_of_isWord hword] at h
  cases h

/-! ### Ends of a text -/

/-- Blanks in front make no difference to what is left. -/
theorem trim_append_of_blank {w : List Char} (h : ∀ c ∈ w, isBlank c = true) (s : List Char) :
    trim (w ++ s) = trim s := by
  rw [trim, dropBlanks, List.dropWhile_append_of_pos h]
  rfl

/-- Blanks that are taken away in front make no difference either. -/
theorem trim_dropWhile (s : List Char) : trim (s.dropWhile isBlank) = trim s := by
  have hfront : ∀ c ∈ s.takeWhile isBlank, isBlank c = true := fun c => List.mem_takeWhile_imp
  have h := trim_append_of_blank hfront (s.dropWhile isBlank)
  rw [List.takeWhile_append_dropWhile] at h
  exact h.symm

/-- Blanks behind make no difference to what is left. -/
theorem trim_append_of_blank_right {w : List Char} (h : ∀ c ∈ w, isBlank c = true) (s : List Char) :
    trim (s ++ w) = trim s := by
  have hback (t : List Char) : dropTrailingBlanks (t ++ w) = dropTrailingBlanks t := by
    rw [dropTrailingBlanks, List.reverse_append,
      List.dropWhile_append_of_pos fun c hc => h c (List.mem_reverse.1 hc)]
    rfl
  rw [trim, trim, dropBlanks, List.dropWhile_append]
  split
  · -- nothing but blanks
    rename_i hempty
    rw [dropBlanks, List.isEmpty_iff.1 hempty, List.dropWhile_eq_nil_iff.2 h]
  · exact hback _

/-- A text without blanks at its ends. -/
def IsTrimmed (s : List Char) : Prop := trim s = s

/-- What neither begins nor ends with a blank is trimmed. -/
theorem isTrimmed_of_ends {s : List Char} (hhead : ∀ c ∈ s.head?, isBlank c = false)
    (hlast : ∀ c ∈ s.getLast?, isBlank c = false) : IsTrimmed s := by
  rcases List.eq_nil_or_concat s with rfl | ⟨before, d, rfl⟩
  · rfl
  · have hd : isBlank d = false := hlast d (by simp)
    have hfront : dropBlanks (before ++ [d]) = before ++ [d] := by
      cases before with
      | nil => exact dropBlanks_cons_of_not_isBlank _ hd
      | cons c before => exact dropBlanks_cons_of_not_isBlank _ (hhead c rfl)
    rw [List.concat_eq_append, IsTrimmed, trim, hfront,
      dropTrailingBlanks_concat_of_not_isBlank _ hd]

theorem dropTrailingBlanks_sublist (s : List Char) : (dropTrailingBlanks s).Sublist s := by
  have h := (List.dropWhile_sublist isBlank (l := s.reverse)).reverse
  rwa [List.reverse_reverse] at h

theorem head?_of_dropWhile_eq_self {p : Char → Bool} {s : List Char} (h : s.dropWhile p = s)
    {c : Char} (hc : c ∈ s.head?) : p c = false := by
  obtain ⟨rest, rfl⟩ := List.head?_eq_some_iff.1 hc
  rw [Bool.eq_false_iff]
  intro hp
  rw [List.dropWhile_cons_of_pos hp] at h
  have hlength := (List.dropWhile_sublist p (l := rest)).length_le
  rw [h, List.length_cons] at hlength
  omega

namespace IsTrimmed

variable {s : List Char} (h : IsTrimmed s)

include h

theorem dropBlanks_eq : dropBlanks s = s := by
  -- what is trimmed at both ends is part of what is trimmed in front
  have hpart := dropTrailingBlanks_sublist (dropBlanks s)
  have hfront : (dropBlanks s).Sublist s := List.dropWhile_sublist isBlank
  refine hfront.eq_of_length_le ?_
  have hlength := hpart.length_le
  rwa [show dropTrailingBlanks (dropBlanks s) = s from h] at hlength

theorem dropTrailingBlanks_eq : dropTrailingBlanks s = s := by
  have hboth : dropTrailingBlanks (dropBlanks s) = s := h
  rwa [h.dropBlanks_eq] at hboth

/-- A trimmed text does not begin with a blank. -/
theorem head {c : Char} (hc : c ∈ s.head?) : isBlank c = false :=
  head?_of_dropWhile_eq_self h.dropBlanks_eq hc

/-- A trimmed text does not end with a blank. -/
theorem getLast {c : Char} (hc : c ∈ s.getLast?) : isBlank c = false := by
  have hreverse : s.reverse.dropWhile isBlank = s.reverse := by
    rw [← List.reverse_inj, List.reverse_reverse]
    exact h.dropTrailingBlanks_eq
  rw [← List.head?_reverse] at hc
  exact head?_of_dropWhile_eq_self hreverse hc

/-- Blanks behind a trimmed text are trimmed away. -/
theorem trim_append_of_blank {w : List Char} (hw : ∀ c ∈ w, isBlank c = true) :
    trim (s ++ w) = s :=
  (trim_append_of_blank_right hw s).trans h

/-- Between two trimmed texts, anything can stand. -/
theorem join {t : List Char} (ht : IsTrimmed t) (hs : s ≠ []) (hne : t ≠ []) (between : List Char) :
    IsTrimmed (s ++ (between ++ t)) := by
  refine isTrimmed_of_ends (fun c hc => ?_) (fun c hc => ?_)
  · rw [List.head?_append_of_ne_nil _ hs] at hc
    exact h.head hc
  · rw [List.getLast?_append_of_ne_nil _ (List.append_ne_nil_of_right_ne_nil _ hne),
      List.getLast?_append_of_ne_nil _ hne] at hc
    exact ht.getLast hc

/-- The rest of a trimmed text does not end with a blank. -/
theorem getLast_of_append {a t : List Char} (hs : s = a ++ t) {c : Char} (hc : c ∈ t.getLast?) :
    isBlank c = false := by
  refine h.getLast ?_
  rw [hs, List.getLast?_append, Option.mem_def.1 hc]
  rfl

end IsTrimmed

end Swimlane.Text
