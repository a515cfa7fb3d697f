import Swimlane.Proofs.Notation.Identifier
import Swimlane.Proofs.Text.Phrase

/-!
# Documents written down

How a document is written in the notation, one record to a line, and which documents can be.

- `Record.keyword`, `Record.content`, `Record.written`: the line of a record.
- `Notation.written`: records one below the other.
- `Document.ListedBy`: some records in an order that keeps that of each list of a document.
- `Document.Expressible`: documents whose texts do not contain the marks that would end them.
-/

namespace Swimlane

/-- The arrow that draws a kind of connection. -/
def ConnectionKind.arrow : ConnectionKind → Notation.Arrow
  | sequence => .single
  | message => .double
  | association => .dotted

/-- The keyword that elements of a kind are written with. -/
def ElementKind.keyword : ElementKind → Notation.Keyword
  | activity => .task
  | event => .event
  | decision => .gateway
  | data => .data
  | note => .note

namespace Notation

open Swimlane.Text

/-! ### Lines -/

/-- What stands behind a label: a qualifier in parentheses, if there is one. -/
def qualifierText : Option String → String
  | none => ""
  | some q => " (" ++ q ++ ")"

/-- What stands behind the target of a flow: a label in brackets, if there is one. -/
def labelText : Option String → String
  | none => ""
  | some l => " [" ++ l ++ "]"

/-- The qualifier of an element. That of an activity lists its markers behind its variant. -/
def qualifier (e : Element) : Option String :=
  match e.kind with
  | .activity => some (", ".intercalate (e.variant.toList ++ e.markers))
  | .event | .decision => e.variant
  | .data | .note => none

namespace Record

/-- The keyword of the line of a record. -/
def keyword : Record → Keyword
  | pool _ => .pool
  | lane _ => .lane
  | element e => e.kind.keyword
  | connection _ => .flow

/-- What stands behind the keyword of the line of a record. -/
def content : Record → String
  | pool p => p.name
  | lane l => l.pool ++ " > " ++ l.name
  | element e => e.id ++ " [" ++ e.home ++ "] " ++ e.label ++ qualifierText (qualifier e)
  | connection c =>
    c.source ++ " " ++ String.ofList c.kind.arrow.text ++ " " ++ c.target ++ labelText c.label

/-- The line of a record. -/
def written (r : Record) : String := r.keyword.text ++ " " ++ r.content

end Record

/-- Records one below the other. -/
def written (rs : List Record) : String := "\n".intercalate (rs.map Record.written)

end Notation

open Notation Text

/-- The records of a document in an order that keeps that of each of its lists. -/
inductive Document.ListedBy : Document → List Record → Prop where
  | nil : ListedBy .empty []
  | pool {d : Document} {rs : List Record} (p : Pool) (h : ListedBy d rs) :
      ListedBy { d with pools := p :: d.pools } (.pool p :: rs)
  | lane {d : Document} {rs : List Record} (l : Lane) (h : ListedBy d rs) :
      ListedBy { d with lanes := l :: d.lanes } (.lane l :: rs)
  | element {d : Document} {rs : List Record} (e : Element) (h : ListedBy d rs) :
      ListedBy { d with elements := e :: d.elements } (.element e :: rs)
  | connection {d : Document} {rs : List Record} (c : Connection) (h : ListedBy d rs) :
      ListedBy { d with connections := c :: d.connections } (.connection c :: rs)

/-! ### What can be written -/

namespace Notation

/-- A variant that is read as it is written: nothing in it ends its parentheses, and it is in lower
case. -/
structure IsVariant (v : String) : Prop where
  phrase : IsPhrase v.toList
  lower : lowered v = v
  closing : ')' ∉ v.toList

instance (v : String) : Decidable (IsVariant v) :=
  decidable_of_iff (IsPhrase v.toList ∧ lowered v = v ∧ ')' ∉ v.toList)
    ⟨fun ⟨hphrase, hlower, hclosing⟩ => ⟨hphrase, hlower, hclosing⟩,
      fun h => ⟨h.phrase, h.lower, h.closing⟩⟩

/-- Word characters, at least one. -/
structure IsIdentifier (s : String) : Prop where
  ne : s.toList ≠ []
  word : IsWord s

instance (s : String) : Decidable (IsWord s) :=
  List.decidableBAll (fun c => isWord c = true) s.toList

instance (s : String) : Decidable (IsIdentifier s) :=
  decidable_of_iff (s.toList ≠ [] ∧ IsWord s)
    ⟨fun ⟨hne, hword⟩ => ⟨hne, hword⟩, fun h => ⟨h.ne, h.word⟩⟩

/-- An activity has a variant, which is no marker, and its markers differ from each other. -/
def StyledTask (e : Element) : Prop :=
  '(' ∉ e.label.toList ∧ (e.id ≠ "start" ∧ e.id ≠ "end") ∧
    (∃ v ∈ e.variant, IsVariant v ∧ ',' ∉ v.toList ∧ v ∉ taskMarkers) ∧
    e.markers.Nodup ∧ ∀ m ∈ e.markers, m ∈ taskMarkers
  deriving Decidable

/-- An event can have a variant. -/
def StyledEvent (e : Element) : Prop :=
  '(' ∉ e.label.toList ∧ (∀ v ∈ e.variant, IsVariant v) ∧ e.markers = []
  deriving Decidable

/-- A decision has a variant. -/
def StyledGateway (e : Element) : Prop :=
  '(' ∉ e.label.toList ∧ (∃ v ∈ e.variant, IsVariant v) ∧ e.markers = []
  deriving Decidable

/-- Data and notes have a label only. -/
def StyledPlain (e : Element) : Prop := e.variant = none ∧ e.markers = []
  deriving Decidable

/-- What the variant and the markers of an element of each kind can be, and its label next to
them. -/
structure Styled (e : Element) : Prop where
  activity : e.kind = .activity → StyledTask e
  event : e.kind = .event → StyledEvent e
  decision : e.kind = .decision → StyledGateway e
  plain : e.kind = .data ∨ e.kind = .note → StyledPlain e

instance (e : Element) : Decidable (Styled e) :=
  decidable_of_iff ((e.kind = .activity → StyledTask e) ∧ (e.kind = .event → StyledEvent e) ∧
      (e.kind = .decision → StyledGateway e) ∧ (e.kind = .data ∨ e.kind = .note → StyledPlain e))
    ⟨fun ⟨activity, event, decision, plain⟩ => ⟨activity, event, decision, plain⟩,
      fun h => ⟨h.activity, h.event, h.decision, h.plain⟩⟩

/-- A record that can be written down: no text in it contains a mark that would end it. -/
def Record.Expressible : Record → Prop
  | pool p => IsPhrase p.name.toList
  | lane l =>
    (IsPhrase l.pool.toList ∧ '>' ∉ l.pool.toList) ∧ IsPhrase l.name.toList ∧ '>' ∉ l.name.toList
  | element e =>
    IsIdentifier e.id ∧ (IsPhrase e.home.toList ∧ ']' ∉ e.home.toList) ∧ IsPhrase e.label.toList ∧
      Styled e
  | connection c =>
    IsIdentifier c.source ∧ IsIdentifier c.target ∧
      ∀ l ∈ c.label, IsPhrase l.toList ∧ ']' ∉ l.toList

instance : (r : Record) → Decidable r.Expressible
  | .pool p => inferInstanceAs (Decidable (IsPhrase p.name.toList))
  | .lane l => inferInstanceAs (Decidable ((IsPhrase l.pool.toList ∧ '>' ∉ l.pool.toList) ∧
      IsPhrase l.name.toList ∧ '>' ∉ l.name.toList))
  | .element e => inferInstanceAs (Decidable (IsIdentifier e.id ∧
      (IsPhrase e.home.toList ∧ ']' ∉ e.home.toList) ∧ IsPhrase e.label.toList ∧ Styled e))
  | .connection c => inferInstanceAs (Decidable (IsIdentifier c.source ∧ IsIdentifier c.target ∧
      ∀ l ∈ c.label, IsPhrase l.toList ∧ ']' ∉ l.toList))

end Notation

/-- A document whose records can all be written down. -/
structure Document.Expressible (d : Document) : Prop where
  pools : ∀ p ∈ d.pools, (Record.pool p).Expressible
  lanes : ∀ l ∈ d.lanes, (Record.lane l).Expressible
  elements : ∀ e ∈ d.elements, (Record.element e).Expressible
  connections : ∀ c ∈ d.connections, (Record.connection c).Expressible

end Swimlane
