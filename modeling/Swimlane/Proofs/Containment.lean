import Mathlib.Data.List.Basic
import Mathlib.Data.List.Induction
import Swimlane.Grid.Band

/-!
# Contained elements

What is gathered in a bucket, told without the table it is gathered in.

- `Document.bucketOf`, `Document.bucketOf_cases`: the bucket of an element, and which it can be.
- `Containment.Holds`: a containment that tells, for some elements, the bucket of each and the
  elements of each bucket.
- `Containment.holds_ofElements`: the first element of each identifier counts.
- `Document.membersOf_eq_filter`: the members of a bucket are the elements that belong there.
-/

namespace Swimlane

/-- The bucket of an element of a document. -/
def Document.bucketOf (d : Document) (e : Element) : Bucket := Bucket.ofHome d e.home

/-- An element belongs to a lane, or to the root of a declared pool without lanes, or nowhere if
there are no lanes and its home is not declared. -/
theorem Document.bucketOf_cases (d : Document) (e : Element) :
    (∃ l ∈ d.lanes, d.bucketOf e = l.bucket) ∨
      (e.home ∈ d.pools.map (·.name) ∧ d.lanesOf e.home = [] ∧ d.bucketOf e = .root e.home) ∨
      (e.home ∉ d.pools.map (·.name) ∧ d.lanes = [] ∧ d.bucketOf e = .unassigned) := by
  have hdeclared : d.pools.any (·.name = e.home) = true ↔ e.home ∈ d.pools.map (·.name) := by simp
  unfold Document.bucketOf Bucket.ofHome
  cases hnamed : d.lanes.find? (·.name = e.home) with
  | some l => exact .inl ⟨l, List.mem_of_find?_eq_some hnamed, rfl⟩
  | none =>
    by_cases hpool : d.pools.any (·.name = e.home) = true
    · rw [if_pos hpool]
      cases hlanes : d.lanesOf e.home with
      | nil => exact .inr (.inl ⟨hdeclared.1 hpool, rfl, rfl⟩)
      | cons l rest =>
        have hl : l ∈ d.lanesOf e.home := hlanes ▸ .head _
        exact .inl ⟨l, List.mem_of_mem_filter hl, rfl⟩
    · rw [if_neg hpool]
      cases hlanes : d.lanes with
      | nil => exact .inr (.inr ⟨fun h => hpool (hdeclared.2 h), rfl, rfl⟩)
      | cons l rest => exact .inl ⟨l, .head _, rfl⟩

namespace Containment

/-- Adding a member changes its bucket and no other. -/
theorem lookup_addMember (bucket b : Bucket) (id : String) (members : List (Bucket × List String)) :
    (addMember bucket id members).lookup b =
      if b = bucket then some ((members.lookup bucket).getD [] ++ [id]) else members.lookup b := by
  induction members with
  | nil =>
    by_cases h : b = bucket
    · simp [addMember, h]
    · have hb : (b == bucket) = false := beq_eq_false_iff_ne.2 h
      simp [addMember, h, List.lookup_cons, hb]
  | cons p rest ih =>
    obtain ⟨b', ids⟩ := p
    by_cases hp : b' = bucket
    · by_cases h : b = bucket
      · simp [addMember, hp, h]
      · have hb : (b == bucket) = false := beq_eq_false_iff_ne.2 h
        simp [addMember, hp, h, List.lookup_cons, hb]
    · by_cases hb : b = b'
      · subst hb
        simp [addMember, hp]
      · have hbucket : (bucket == b') = false := beq_eq_false_iff_ne.2 fun h => hp h.symm
        have hb' : (b == b') = false := beq_eq_false_iff_ne.2 hb
        simp only [addMember, hp, if_false, List.lookup_cons, hb', hbucket, ih]

/-- A containment that tells, for some elements in order, the bucket of each and the elements of
each bucket. -/
structure Holds (d : Document) (elements : List Element) (c : Containment) : Prop where
  byElement : c.byElement = elements.map fun e => (e.id, d.bucketOf e)
  membersOf : ∀ b, c.membersOf b = (elements.filter (d.bucketOf · = b)).map (·.id)

theorem holds_empty (d : Document) : Holds d [] empty := ⟨rfl, fun _ => rfl⟩

/-- One element more: it counts if its identifier is new. -/
theorem Holds.add {d : Document} {elements : List Element} {c : Containment}
    (h : Holds d elements c) (e : Element) :
    Holds d (elements ++ if e.id ∈ elements.map (·.id) then [] else [e]) (c.add d e) := by
  have hknown : c.byElement.any (·.1 = e.id) = true ↔ e.id ∈ elements.map (·.id) := by
    simp [h.byElement]
  by_cases hmem : e.id ∈ elements.map (·.id)
  · rw [if_pos hmem, List.append_nil, Containment.add, if_pos (hknown.2 hmem)]
    exact h
  · rw [if_neg hmem, Containment.add, if_neg fun hk => hmem (hknown.1 hk)]
    refine ⟨?_, fun b => ?_⟩
    · rw [h.byElement, List.map_append]
      rfl
    · have hb := h.membersOf b
      simp only [Containment.membersOf, lookup_addMember] at hb ⊢
      rw [List.filter_append, List.map_append, ← hb]
      by_cases hbucket : b = Bucket.ofHome d e.home
      · subst hbucket
        simp [Document.bucketOf]
      · have hne : ¬ d.bucketOf e = b := fun he => hbucket he.symm
        simp [hbucket, hne]

/-- The first element of each identifier counts. -/
theorem holds_ofElements (d : Document) (elements : List Element) :
    Holds d (distinctBy (·.id) elements) (ofElements d elements) := by
  -- from the end, where the element stands that is put in last
  induction elements using List.reverseRecOn with
  | nil => exact holds_empty d
  | append_singleton elements e ih =>
    have hids : (e.id ∈ (distinctBy (·.id) elements).map (·.id)) = (e.id ∈ elements.map (·.id)) :=
      propext (map_mem_distinctBy _ _ _)
    have hadd := ih.add e
    simp only [hids] at hadd
    rw [distinctBy_concat, ofElements, List.foldl_append]
    exact hadd

end Containment

namespace Document

/-- An identifier of one of the first elements stands for that element. -/
theorem element?_of_mem_uniqueElements {d : Document} {e : Element} (h : e ∈ d.uniqueElements) :
    d.element? e.id = some e :=
  find?_of_mem_distinctBy h

/-- The containment of a document tells where its elements belong. -/
theorem holds_containment (d : Document) : Containment.Holds d d.uniqueElements d.containment := by
  have hunique : distinctBy (·.id) d.uniqueElements = d.uniqueElements :=
    distinctBy_eq_self (pairwise_distinctBy _ _)
  have hholds := Containment.holds_ofElements d d.uniqueElements
  rwa [hunique] at hholds

/-- The members of a bucket are the elements that belong there, in order. -/
theorem membersOf_eq_filter (d : Document) (b : Bucket) :
    d.membersOf b = d.uniqueElements.filter (d.bucketOf · = b) := by
  have hfound : ∀ e ∈ d.uniqueElements.filter (d.bucketOf · = b), d.element? e.id = some e :=
    fun e he => element?_of_mem_uniqueElements (List.mem_of_mem_filter he)
  rw [membersOf, d.holds_containment.membersOf b, List.filterMap_map]
  exact (List.filterMap_congr hfound).trans List.filterMap_some

end Document

end Swimlane
