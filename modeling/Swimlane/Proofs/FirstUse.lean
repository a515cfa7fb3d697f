import Swimlane.Proofs.Containment
import Swimlane.Proofs.Edge
import Swimlane.Proofs.Layout

/-!
# The first use of an identifier

An identifier may be used for several elements, which need not agree on anything else. Only the
first of them counts, wherever an element is looked up.

- `distinctBy_eq_filter_zipIdx`, `find?_distinctBy`: the first items of their keys, told by places,
  and what is found among them.
- `Document.unrepeated`: a document without the later elements of an identifier.
- `Containment.ofElements_distinctBy`, `Document.containment_unrepeated`: they have no bucket.
- `Document.bands_unrepeated`, `Document.edges_unrepeated`: they are not drawn, and no edge is drawn
  by them.
- `Document.duplicateIds_eq_nil_iff`: when there are none.
- `Layout.diagram_firstUse`: the first use counts everywhere.
-/

namespace Swimlane

/-! ### First items -/

section Distinct

variable {α κ : Type} [DecidableEq κ] (key : α → κ) (items : List α)

/-- The items that are kept are those in front of which their key does not occur. -/
theorem distinctBy_eq_filter_zipIdx :
    distinctBy key items =
      (items.zipIdx.filter fun p => key p.1 ∉ (items.take p.2).map key).map (·.1) := by
  induction items using List.reverseRecOn with
  | nil => rfl
  | append_singleton items a ih =>
    -- what stands at the end is in front of no other item
    have hfront : ∀ p ∈ items.zipIdx,
        decide (key p.1 ∉ ((items ++ [a]).take p.2).map key) =
          decide (key p.1 ∉ (items.take p.2).map key) := by
      intro p hp
      have hlt : p.2 < items.length := by simpa using (List.mem_zipIdx hp).2.1
      rw [List.take_append_of_le_length hlt.le]
    rw [distinctBy_concat, ih, List.zipIdx_append, List.filter_append, List.map_append,
      List.filter_congr hfront]
    by_cases hmem : key a ∈ items.map key <;> simp_all

/-- An item that is found by its key is the first one with that key. -/
theorem find?_distinctBy (k : κ) :
    (distinctBy key items).find? (key · = k) = items.find? (key · = k) := by
  induction items with
  | nil => rfl
  | cons a rest ih =>
    rw [distinctBy]
    by_cases ha : key a = k
    · rw [List.find?_cons_of_pos (by simpa using ha), List.find?_cons_of_pos (by simpa using ha)]
    · rw [List.find?_cons_of_neg (by simpa using ha), List.find?_cons_of_neg (by simpa using ha),
        ← ih, List.find?_filter]
      -- an item with the key `k` does not have that of `a`
      refine congrArg (List.find? · _) (funext fun b => ?_)
      by_cases hb : key b = k
      · simp [hb, Ne.symm ha]
      · simp [hb]

end Distinct

/-! ### Documents without repetition -/

/-- Only the first element of an identifier has a bucket. -/
theorem Containment.ofElements_distinctBy (d : Document) (elements : List Element) :
    ofElements d (distinctBy (·.id) elements) = ofElements d elements := by
  induction elements using List.reverseRecOn with
  | nil => rfl
  | append_singleton elements e ih =>
    rw [distinctBy_concat]
    by_cases hmem : e.id ∈ elements.map (·.id)
    · have hknown : (ofElements d elements).byElement.any (·.1 = e.id) = true := by
        rw [(holds_ofElements d elements).byElement]
        simpa using (map_mem_distinctBy (·.id) elements e.id).2 hmem
      have hadd : ofElements d (elements ++ [e]) = (ofElements d elements).add d e :=
        List.foldl_append
      rw [if_pos hmem, List.append_nil, ih, hadd, Containment.add, if_pos hknown]
    · rw [if_neg hmem]
      simp only [ofElements, List.foldl_append] at ih ⊢
      rw [ih]

namespace Document

/-- The document with the first element of each identifier only. -/
def unrepeated (d : Document) : Document := { d with elements := d.uniqueElements }

@[simp] theorem uniqueElements_unrepeated (d : Document) :
    d.unrepeated.uniqueElements = d.uniqueElements :=
  distinctBy_eq_self (pairwise_distinctBy _ _)

@[simp] theorem element?_unrepeated (d : Document) : d.unrepeated.element? = d.element? :=
  funext fun id => find?_distinctBy Element.id d.elements id

theorem reservedSizes_unrepeated (d : Document) : d.unrepeated.reservedSizes = d.reservedSizes := by
  rw [reservedSizes, uniqueElements_unrepeated, reservedSizes]

theorem containment_unrepeated (d : Document) : d.unrepeated.containment = d.containment := by
  rw [containment, uniqueElements_unrepeated]
  -- a bucket is told by the pools and the lanes, which are the same
  rfl

theorem membersOf_unrepeated (d : Document) : d.unrepeated.membersOf = d.membersOf := by
  funext bucket
  rw [membersOf, membersOf, containment_unrepeated, element?_unrepeated]

theorem bands_unrepeated (d : Document) : d.unrepeated.bands = d.bands := by
  have hlanes : d.unrepeated.lanes = d.lanes := rfl
  rw [bands, membersOf_unrepeated]
  exact congrArg (· ++ _) (Band.ofPools_congr hlanes d.membersOf [] .none d.bandPools)

theorem edges_unrepeated (d : Document) : d.unrepeated.edges = d.edges :=
  edgesFrom_congr (element?_unrepeated d) 0 d.connections

/-- No identifier is used twice if and only if every element is a first one. -/
theorem duplicateIds_eq_nil_iff (d : Document) :
    d.duplicateIds = [] ↔ d.uniqueElements = d.elements := by
  have hcount : d.duplicateIds = [] ↔ (d.elements.map (·.id)).Nodup := by
    rw [duplicateIds, List.filter_eq_nil_iff, List.nodup_iff_count_le_one]
    constructor
    · intro h id
      by_cases hmem : id ∈ d.elements.map (·.id)
      · simpa using h id (mem_distinct.2 hmem)
      · simp [List.count_eq_zero_of_not_mem hmem]
    · exact fun h id _ => by simpa using h id
  rw [hcount]
  constructor
  · exact fun h => distinctBy_eq_self (List.pairwise_map.1 h)
  · exact fun h => h ▸ d.nodup_ids

end Document

/-! ### First uses in a diagram -/

namespace Layout

variable {α : Type} [Scalar α]

theorem diagram_unrepeated (l : Layout α) (d : Document) :
    l.diagram d.unrepeated = l.diagram d := by
  have hedges : d.unrepeated.flowGraph.edges = d.flowGraph.edges := by
    simp only [Document.flowGraph, Document.reservedSizes_unrepeated]
    rfl
  have hcompose (boxes : List (String × Box α)) :
      l.compose d.unrepeated boxes = l.compose d boxes := by
    rw [compose, Document.bands_unrepeated, Document.edges_unrepeated, compose]
  have h := map_diagram_congr id (Document.reservedSizes_unrepeated d) hedges hcompose
  simpa [Except.map_id] using h

/-- **The first use of an identifier counts everywhere**: without the later ones, a document has the
same diagram, or fails alike, with the same buckets, which a list with all of them has too. The
elements that are left are those in front of which their identifier is not used, and they are all
if and only if no identifier is used twice. -/
theorem diagram_firstUse (l : Layout α) (d : Document) :
    l.diagram d.unrepeated = l.diagram d ∧
      d.unrepeated.containment = d.containment ∧
      Containment.ofElements d d.elements = d.containment ∧
      d.unrepeated.elements =
        (d.elements.zipIdx.filter fun p => p.1.id ∉ (d.elements.take p.2).map (·.id)).map (·.1) ∧
      (d.duplicateIds = [] ↔ d.unrepeated.elements = d.elements) :=
  ⟨l.diagram_unrepeated d, d.containment_unrepeated,
    (Containment.ofElements_distinctBy d d.elements).symm,
    distinctBy_eq_filter_zipIdx Element.id d.elements, d.duplicateIds_eq_nil_iff⟩

end Layout

end Swimlane
