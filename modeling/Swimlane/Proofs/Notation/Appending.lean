import Swimlane.Proofs.Edge
import Swimlane.Proofs.Notation.Locality

/-!
# Texts that grow

More lines behind a text may give its identifiers to further elements, and may declare the missing
ends of its connections. Neither changes what an identifier of the text stands for, nor the place of
a connection among all connections, and the look of an edge depends on nothing else.

- `Document.element?_append_of_isSome`: an identifier that is known keeps its element.
- `Document.edgesFrom_append`: the edges of connections one after the other.
- `Document.draws`, `Document.edges_eq_filter`: which edges of a longer document are those of its
  front.
- `Notation.edges_parse_append`: no edge of a text is lost or changed when the text grows.
-/

namespace Swimlane

namespace Document

@[simp] theorem elements_append (d d' : Document) :
    (d ++ d').elements = d.elements ++ d'.elements :=
  rfl

@[simp] theorem connections_append (d d' : Document) :
    (d ++ d').connections = d.connections ++ d'.connections :=
  rfl

/-! ### Known ends -/

/-- The first element of an identifier stays the first one. -/
theorem element?_append_of_isSome {d : Document} {id : String} (h : (d.element? id).isSome = true)
    (d' : Document) : (d ++ d').element? id = d.element? id := by
  obtain ⟨e, he⟩ := Option.isSome_iff_exists.1 h
  rw [element?, elements_append, List.find?_append]
  show (d.element? id).or _ = d.element? id
  rw [he, Option.some_or]

/-- A connection between known elements stays one. -/
theorem joins_append {d : Document} {c : Connection} (h : d.joins c = true) (d' : Document) :
    (d ++ d').joins c = true := by
  obtain ⟨hsource, htarget⟩ := Bool.and_eq_true_iff.1 h
  rw [joins, element?_append_of_isSome hsource, element?_append_of_isSome htarget]
  exact h

/-! ### Drawn edges -/

/-- Connections one after the other are numbered through. -/
theorem edgesFrom_append (d : Document) (first : Nat) (cs cs' : List Connection) :
    d.edgesFrom first (cs ++ cs') =
      d.edgesFrom first cs ++ d.edgesFrom (first + cs.length) cs' := by
  induction cs generalizing first with
  | nil => rfl
  | cons c rest ih =>
    have hnext : first + (c :: rest).length = first + 1 + rest.length := by
      rw [List.length_cons]
      omega
    rw [List.cons_append, edgesFrom, edgesFrom, ih, hnext]
    by_cases hc : d.joins c = true
    · rw [if_pos hc, if_pos hc]
      rfl
    · rw [if_neg hc, if_neg hc]

/-- Of the edges that a longer document draws for some connections, those between elements of its
front are the edges that the front draws for them. -/
theorem edgesFrom_eq_filter (d d' : Document) (first : Nat) (cs : List Connection) :
    d.edgesFrom first cs = ((d ++ d').edgesFrom first cs).filter (d.joins ·.connection) := by
  induction cs generalizing first with
  | nil => rfl
  | cons c rest ih =>
    have hconnection (source : Option Element) :
        d.joins (Edge.ofConnection first c source).connection = d.joins c := rfl
    rw [edgesFrom, edgesFrom]
    by_cases hc : d.joins c = true
    · -- the edge looks the same, because its source stands for the same element
      have hsource : (d ++ d').element? c.source = d.element? c.source :=
        element?_append_of_isSome (Bool.and_eq_true_iff.1 hc).1 d'
      rw [if_pos hc, if_pos (joins_append hc d'), hsource,
        List.filter_cons_of_pos (by rw [hconnection, hc]), ih]
    · rw [if_neg hc]
      by_cases hc' : (d ++ d').joins c = true
      · rw [if_pos hc', List.filter_cons_of_neg (by rw [hconnection]; exact hc), ih]
      · rw [if_neg hc', ih]

/-- The number of an edge is that of one of the connections it is drawn for. -/
theorem number_of_mem_edgesFrom {d : Document} {first : Nat} {cs : List Connection} {e : Edge}
    (he : e ∈ d.edgesFrom first cs) : (first : Int) ≤ e.number ∧ e.number < first + cs.length := by
  obtain ⟨i, hnumber, hi, -⟩ := exists_index_of_mem_edgesFrom he
  have hlt : i < cs.length := (List.getElem?_eq_some_iff.1 hi).1
  omega

/-- Whether an edge has the number of a connection of the document, and both ends among its
elements. -/
def draws (d : Document) (e : Edge) : Bool :=
  decide (e.number < (d.connections.length : Int)) && d.joins e.connection

/-- The edges of the front of a document are the edges of the whole that the front draws. -/
theorem edges_eq_filter (d d' : Document) : d.edges = (d ++ d').edges.filter d.draws := by
  have hcut : (d ++ d').edges = (d ++ d').edgesFrom 0 d.connections ++
      (d ++ d').edgesFrom (0 + d.connections.length) d'.connections :=
    edgesFrom_append _ 0 d.connections d'.connections
  have hfront : ∀ e ∈ (d ++ d').edgesFrom 0 d.connections,
      d.draws e = d.joins e.connection := by
    intro e he
    have hlt := (number_of_mem_edgesFrom he).2
    rw [draws, decide_eq_true (by omega), Bool.true_and]
  have hback : ∀ e ∈ (d ++ d').edgesFrom (0 + d.connections.length) d'.connections,
      ¬d.draws e = true := by
    intro e he
    have hle := (number_of_mem_edgesFrom he).1
    rw [draws, decide_eq_false (by omega), Bool.false_and]
    exact Bool.false_ne_true
  rw [hcut, List.filter_append, List.filter_congr hfront, List.filter_eq_nil_iff.2 hback,
    List.append_nil, ← edgesFrom_eq_filter]
  rfl

end Document

namespace Notation

/-- **Edges stay when a text grows**: the edges of a text are drawn for every text that continues it
in a new line, in the same order and with the same numbers, ends, labels, sides, styles and heads,
whatever the new lines declare. All other edges belong to connections of the new lines, or have an
end that the text does not know. -/
theorem edges_parse_append (a b : String) :
    (parse a).edges.Sublist (parse (a ++ "\n" ++ b)).edges ∧
      (parse a).edges = (parse (a ++ "\n" ++ b)).edges.filter (parse a).draws := by
  have hfilter := Document.edges_eq_filter (parse a) (parse b)
  rw [← parse_append_newline] at hfilter
  refine ⟨?_, hfilter⟩
  rw [hfilter]
  exact List.filter_sublist

end Notation

end Swimlane
