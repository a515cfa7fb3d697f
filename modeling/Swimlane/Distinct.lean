/-!
# First occurrences

- `distinctBy`: the items of a list whose key did not occur before.
- `distinct`: the items that did not occur before.
- `map_mem_distinctBy`, `pairwise_distinctBy`: every key is kept, and none twice.
- `distinctBy_concat`: what one more item at the end changes.
- `distinctBy_map`: first occurrences among images.
- `find?_of_mem_distinctBy`: an item that is kept is the first one with its key.
- `filter_distinct`: first occurrences among the items that pass a test.
- `distinct_append_cons_of_mem`: a copy behind an item is not kept.
- `rel_or_rel_of_pairwise`: what two different items of an ordered list have to do with each other.
-/

namespace Swimlane

variable {α κ : Type} [DecidableEq κ]

/-- The items whose key did not occur before, in their order. -/
def distinctBy (key : α → κ) : List α → List α
  | [] => []
  | a :: rest => a :: (distinctBy key rest).filter (fun b => key b ≠ key a)

/-- The items that did not occur before, in their order. -/
def distinct [DecidableEq α] (items : List α) : List α := distinctBy id items

theorem distinctBy_sublist (key : α → κ) (items : List α) :
    (distinctBy key items).Sublist items := by
  induction items with
  | nil => exact .slnil
  | cons a rest ih => exact (List.filter_sublist.trans ih).cons_cons a

/-- No key is kept twice. -/
theorem pairwise_distinctBy (key : α → κ) (items : List α) :
    (distinctBy key items).Pairwise (fun a b => key a ≠ key b) := by
  induction items with
  | nil => exact .nil
  | cons a rest ih =>
    refine .cons (fun b hb => ?_) (ih.filter _)
    have := (List.mem_filter.1 hb).2
    simpa using fun h => of_decide_eq_true this h.symm

/-- No item is kept twice. -/
theorem nodup_distinct [DecidableEq α] (items : List α) : (distinct items).Nodup :=
  pairwise_distinctBy id items

/-- Every key of the list is kept. -/
theorem map_mem_distinctBy (key : α → κ) (items : List α) (k : κ) :
    k ∈ (distinctBy key items).map key ↔ k ∈ items.map key := by
  induction items with
  | nil => simp [distinctBy]
  | cons a rest ih =>
    by_cases h : k = key a
    · simp [distinctBy, h]
    · simp only [distinctBy, List.map_cons, List.mem_cons, h, false_or] at ih ⊢
      rw [← ih]
      simp only [List.mem_map, List.mem_filter, decide_eq_true_eq]
      constructor
      · rintro ⟨b, hb, rfl⟩
        exact ⟨b, hb.1, rfl⟩
      · rintro ⟨b, hb, rfl⟩
        exact ⟨b, ⟨hb, by simpa using h⟩, rfl⟩

/-- An item at the end is kept if its key did not occur before. -/
theorem distinctBy_concat (key : α → κ) (items : List α) (a : α) :
    distinctBy key (items ++ [a]) =
      distinctBy key items ++ if key a ∈ items.map key then [] else [a] := by
  induction items with
  | nil => rfl
  | cons b rest ih =>
    rw [List.cons_append, distinctBy, ih, distinctBy, List.filter_append, List.cons_append]
    by_cases hb : key a = key b
    · by_cases ha : key a ∈ rest.map key <;> simp_all
    · by_cases ha : key a ∈ rest.map key <;> simp_all

/-- The first items of their keys in a list of images, where the images have the same key if and
only if the items have. -/
theorem distinctBy_map {β μ : Type} [DecidableEq μ] {key : α → κ} {key' : β → μ} {f : α → β}
    (h : ∀ a b, key' (f a) = key' (f b) ↔ key a = key b) (items : List α) :
    distinctBy key' (items.map f) = (distinctBy key items).map f := by
  induction items with
  | nil => rfl
  | cons a rest ih =>
    rw [List.map_cons, distinctBy, ih, distinctBy, List.map_cons, List.filter_map]
    simp only [Function.comp_def, ne_eq, h]

/-- Where no key occurs twice, every item is kept. -/
theorem distinctBy_eq_self {key : α → κ} {items : List α}
    (h : items.Pairwise fun a b => key a ≠ key b) : distinctBy key items = items := by
  induction h with
  | nil => rfl
  | cons hne _ ih =>
    rw [distinctBy, ih, List.filter_eq_self.2 fun b hb => by simpa using (hne b hb).symm]

/-- An item that is kept is the first one with its key. -/
theorem find?_of_mem_distinctBy {key : α → κ} {items : List α} {a : α}
    (h : a ∈ distinctBy key items) : items.find? (key · = key a) = some a := by
  induction items with
  | nil => cases h
  | cons b rest ih =>
    rcases List.mem_cons.1 h with rfl | h
    · rw [List.find?_cons_of_pos (by simp)]
    · obtain ⟨ha, hne⟩ := List.mem_filter.1 h
      have hkey : key b ≠ key a := fun he => of_decide_eq_true hne he.symm
      rw [List.find?_cons_of_neg (by simpa using hkey)]
      exact ih ha

omit [DecidableEq κ] in
/-- Where earlier items are related to later ones, two different items are related one way or the
other. -/
theorem rel_or_rel_of_pairwise {R : α → α → Prop} {items : List α} (h : items.Pairwise R) {a b : α}
    (ha : a ∈ items) (hb : b ∈ items) (hne : a ≠ b) : R a b ∨ R b a := by
  induction h with
  | nil => cases ha
  | cons hrel _ ih =>
    rcases List.mem_cons.1 ha with rfl | ha'
    · rcases List.mem_cons.1 hb with rfl | hb'
      · exact absurd rfl hne
      · exact .inl (hrel b hb')
    · rcases List.mem_cons.1 hb with rfl | hb'
      · exact .inr (hrel a ha')
      · exact ih ha' hb'

/-- Every item of the list is kept. -/
theorem mem_distinct [DecidableEq α] {items : List α} {a : α} : a ∈ distinct items ↔ a ∈ items := by
  simpa [distinct] using map_mem_distinctBy id items a

theorem distinct_cons [DecidableEq α] (a : α) (rest : List α) :
    distinct (a :: rest) = a :: (distinct rest).filter (· ≠ a) :=
  rfl

theorem distinct_concat {α : Type} [DecidableEq α] (items : List α) (a : α) :
    distinct (items ++ [a]) = distinct items ++ if a ∈ items then [] else [a] := by
  rw [distinct, distinctBy_concat, List.map_id, id_eq]
  rfl

/-- The first occurrences of what passes a test are those first occurrences that pass it. -/
theorem filter_distinct [DecidableEq α] (p : α → Bool) (items : List α) :
    (distinct items).filter p = distinct (items.filter p) := by
  induction items with
  | nil => rfl
  | cons a rest ih =>
    rw [distinct_cons]
    cases ha : p a with
    | true =>
      rw [List.filter_cons_of_pos ha, List.filter_cons_of_pos ha, distinct_cons, ← ih,
        List.filter_filter, List.filter_filter]
      simp only [Bool.and_comm]
    | false =>
      -- an item that passes is not the one that is left out
      have hne : ∀ b ∈ distinct rest, (p b && decide (b ≠ a)) = p b := by
        intro b _
        by_cases hb : b = a
        · rw [hb, ha, Bool.false_and]
        · rw [decide_eq_true hb, Bool.and_true]
      rw [List.filter_cons_of_neg (by simp [ha]), List.filter_cons_of_neg (by simp [ha]), ← ih,
        List.filter_filter, List.filter_congr hne]

/-- A copy of an item behind it is not kept. -/
theorem distinct_append_cons_of_mem [DecidableEq α] {front : List α} {a : α} (h : a ∈ front)
    (back : List α) : distinct (front ++ a :: back) = distinct (front ++ back) := by
  induction front with
  | nil => cases h
  | cons b front ih =>
    rw [List.cons_append, List.cons_append, distinct_cons, distinct_cons]
    rcases List.mem_cons.1 h with rfl | h
    · -- the first item keeps all its copies out
      have hout : (a :: back).filter (· ≠ a) = back.filter (· ≠ a) :=
        List.filter_cons_of_neg (by simp)
      rw [filter_distinct, filter_distinct, List.filter_append, hout, List.filter_append]
    · rw [ih h]

end Swimlane
