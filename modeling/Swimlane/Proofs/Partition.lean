import Mathlib.Data.List.Nodup
import Swimlane.Proofs.Grid.Bands
import Swimlane.Table

/-!
# Containment as a partition

The elements of a list are divided among buckets: each identifier counts once, for the first element
that has it, and belongs to one bucket. The two tables of a containment tell the same, one by
identifier and one by bucket.

- `Document.Offers`: the buckets that a document has a place for.
- `Containment.Partitions`: a containment that divides a list of elements.
- `Document.offers_bucketOf`, `Bucket.ofHome_eq_unassigned_iff`: which buckets are used, and for
  which homes there is none.
- `Document.exists_band`: each bucket in use has a band.
- `Containment.ofElements_partitions`: every list of elements is divided, whatever it repeats.
-/

namespace Swimlane

/-! ### Buckets -/

/-- A bucket that a document has a place for: a lane, a declared pool without lanes, or the place of
what belongs nowhere. -/
inductive Document.Offers (d : Document) : Bucket → Prop where
  | lane {l : Lane} (hl : l ∈ d.lanes) : d.Offers l.bucket
  | root {p : Pool} (hp : p ∈ d.pools) (hlanes : d.lanesOf p.name = []) : d.Offers (.root p.name)
  | unassigned : d.Offers .unassigned

/-- Every element belongs to a bucket of the document. -/
theorem Document.offers_bucketOf (d : Document) (e : Element) : d.Offers (d.bucketOf e) := by
  rcases d.bucketOf_cases e with ⟨l, hl, hbucket⟩ | ⟨hpool, hlanes, hbucket⟩ | ⟨-, -, hbucket⟩
  · rw [hbucket]
    exact .lane hl
  · obtain ⟨p, hp, hname⟩ := List.mem_map.1 hpool
    rw [hbucket, ← hname]
    exact .root hp (hname ▸ hlanes)
  · rw [hbucket]
    exact .unassigned

/-- The name of a lane leads to the first lane of that name. -/
theorem Bucket.ofHome_name {d : Document} {front back : List Lane} {l : Lane}
    (hlanes : d.lanes = front ++ l :: back) (hfirst : ∀ l' ∈ front, l'.name ≠ l.name) :
    Bucket.ofHome d l.name = l.bucket := by
  have hfound : d.lanes.find? (·.name = l.name) = some l :=
    List.find?_eq_some_iff_append.2
      ⟨decide_eq_true rfl, front, back, hlanes, fun l' hl' => by simp [hfirst l' hl']⟩
  rw [ofHome, hfound]

/-- A home leads nowhere if and only if the document has no lane, and no pool of that name. -/
theorem Bucket.ofHome_eq_unassigned_iff {d : Document} {home : String} :
    Bucket.ofHome d home = .unassigned ↔ d.lanes = [] ∧ home ∉ d.pools.map (·.name) := by
  -- an element with that home
  let e : Element := ⟨"", home, "", .note, none, []⟩
  have hhome : d.bucketOf e = Bucket.ofHome d home := rfl
  rw [← hhome]
  rcases d.bucketOf_cases e with ⟨l, hl, hbucket⟩ | ⟨hpool, -, hbucket⟩ | ⟨hpool, hlanes, hbucket⟩
  · rw [hbucket]
    exact iff_of_false Bucket.noConfusion fun h => List.ne_nil_of_mem hl h.1
  · rw [hbucket]
    exact iff_of_false Bucket.noConfusion fun h => h.2 hpool
  · exact iff_of_true hbucket ⟨hlanes, hpool⟩

/-- A bucket in use has a band, with all of its elements. -/
theorem Document.exists_band {d : Document} {p : String × Bucket}
    (hp : p ∈ d.containment.byElement) :
    ∃ s ∈ d.shelves, s.bucket = p.2 ∧
      s.members.map (·.id) = d.containment.membersOf p.2 := by
  rw [d.holds_containment.byElement] at hp
  obtain ⟨e, he, rfl⟩ := List.mem_map.1 hp
  have hmember : e ∈ d.membersOf (d.bucketOf e) := by
    rw [membersOf_eq_filter]
    exact List.mem_filter.2 ⟨he, decide_eq_true rfl⟩
  obtain ⟨s, hs, hbucket, hmembers⟩ := exists_mem_shelves (List.ne_nil_of_mem hmember)
  refine ⟨s, hs, hbucket, ?_⟩
  rw [hmembers, membersOf_eq_filter, d.holds_containment.membersOf]

namespace Containment

/-! ### The table of buckets -/

theorem map_fst_addMember (bucket : Bucket) (id : String) (members : List (Bucket × List String)) :
    (addMember bucket id members).map (·.1) =
      members.map (·.1) ++ if bucket ∈ members.map (·.1) then [] else [bucket] := by
  induction members with
  | nil => rfl
  | cons p rest ih =>
    obtain ⟨b, ids⟩ := p
    by_cases hb : b = bucket
    · simp [addMember, hb]
    · have hne : bucket ≠ b := fun h => hb h.symm
      simp only [addMember, hb, if_false, List.map_cons, ih, List.mem_cons, hne, false_or,
        List.cons_append]

/-- There is one list of members for each bucket in use, in the order of first use. -/
theorem map_fst_members (d : Document) (elements : List Element) :
    (ofElements d elements).members.map (·.1) =
      distinct ((ofElements d elements).byElement.map (·.2)) := by
  induction elements using List.reverseRecOn with
  | nil => rfl
  | append_singleton elements e ih =>
    have hstep : ofElements d (elements ++ [e]) = (ofElements d elements).add d e := by
      rw [ofElements, List.foldl_append]
      rfl
    rw [hstep, add]
    split
    · exact ih
    · rw [map_fst_addMember, ih, List.map_append, List.map_singleton, distinct_concat]
      simp only [mem_distinct]

theorem mem_members {d : Document} {elements : List Element} {p : Bucket × List String}
    (hp : p ∈ (ofElements d elements).members) :
    p.2 = (ofElements d elements).membersOf p.1 := by
  have hnodup : ((ofElements d elements).members.map (·.1)).Nodup := by
    rw [map_fst_members]
    exact nodup_distinct _
  rw [membersOf, Table.lookup_eq_some_of_mem hnodup hp]
  rfl

/-! ### The table of identifiers -/

/-- The first element of an identifier is one that counts. -/
theorem mem_distinctBy_of_first {front back : List Element} {e : Element}
    (hfirst : e.id ∉ front.map (·.id)) : e ∈ distinctBy (·.id) (front ++ e :: back) := by
  have hid : e.id ∈ (distinctBy (·.id) (front ++ e :: back)).map (·.id) := by
    rw [map_mem_distinctBy, List.map_append]
    exact List.mem_append_right _ (.head _)
  obtain ⟨e', he', hsame⟩ := List.mem_map.1 hid
  have hfound := find?_of_mem_distinctBy he'
  have hnone : ∀ a ∈ front, (!decide (a.id = e'.id)) = true := by
    intro a ha
    have hne : a.id ≠ e'.id := fun h => hfirst (List.mem_map.2 ⟨a, ha, h.trans hsame⟩)
    simp [hne]
  have hfirst' : (front ++ e :: back).find? (·.id = e'.id) = some e :=
    List.find?_eq_some_iff_append.2 ⟨decide_eq_true hsame.symm, front, back, rfl, hnone⟩
  obtain rfl := Option.some.inj (hfound.symm.trans hfirst')
  exact he'

theorem nodup_identifiers (elements : List Element) :
    ((distinctBy (·.id) elements).map (·.id)).Nodup :=
  List.pairwise_map.2 (pairwise_distinctBy _ _)

/-- The identifiers that count are those of the list, in the order of first use. -/
theorem map_id_distinctBy (elements : List Element) :
    (distinctBy (·.id) elements).map (·.id) = distinct (elements.map (·.id)) := by
  rw [distinct, distinctBy_map (fun _ _ => Iff.rfl) elements]
  rfl

/-- An element that counts is in the bucket where it belongs. -/
theorem bucketOf_eq {d : Document} {elements : List Element} {e : Element}
    (he : e ∈ distinctBy (·.id) elements) :
    (ofElements d elements).bucketOf e.id = d.bucketOf e := by
  have hholds := holds_ofElements d elements
  have hkeys : ((ofElements d elements).byElement.map (·.1)).Nodup := by
    rw [hholds.byElement, List.map_map]
    exact nodup_identifiers elements
  have hentry : (e.id, d.bucketOf e) ∈ (ofElements d elements).byElement := by
    rw [hholds.byElement]
    exact List.mem_map_of_mem he
  rw [bucketOf, Table.lookup_eq_some_of_mem hkeys hentry]
  rfl

theorem mem_membersOf {d : Document} {elements : List Element} {id : String} {b : Bucket} :
    id ∈ (ofElements d elements).membersOf b ↔
      id ∈ elements.map (·.id) ∧ (ofElements d elements).bucketOf id = b := by
  rw [(holds_ofElements d elements).membersOf, ← map_mem_distinctBy (·.id) elements]
  constructor
  · intro h
    obtain ⟨e, hfilter, rfl⟩ := List.mem_map.1 h
    obtain ⟨he, hbucket⟩ := List.mem_filter.1 hfilter
    exact ⟨List.mem_map_of_mem he, (bucketOf_eq he).trans (of_decide_eq_true hbucket)⟩
  · rintro ⟨h, hbucket⟩
    obtain ⟨e, he, rfl⟩ := List.mem_map.1 h
    rw [bucketOf_eq he] at hbucket
    exact List.mem_map_of_mem (List.mem_filter.2 ⟨he, decide_eq_true hbucket⟩)

theorem membersOf_sublist (d : Document) (elements : List Element) (b : Bucket) :
    ((ofElements d elements).membersOf b).Sublist (distinct (elements.map (·.id))) := by
  rw [(holds_ofElements d elements).membersOf, ← map_id_distinctBy]
  exact List.filter_sublist.map _

/-- Together, the lists of members hold every identifier once. -/
theorem members_perm (d : Document) (elements : List Element) :
    ((ofElements d elements).members.flatMap (·.2)).Perm (distinct (elements.map (·.id))) := by
  have hlists : (ofElements d elements).members.Pairwise fun p q => List.Disjoint p.2 q.2 := by
    have hkeys : ((ofElements d elements).members.map (·.1)).Nodup := by
      rw [map_fst_members]
      exact nodup_distinct _
    refine (List.pairwise_map.1 hkeys).imp_of_mem fun {p q} hp hq hne id hid hid' => hne ?_
    rw [mem_members hp, mem_membersOf] at hid
    rw [mem_members hq, mem_membersOf] at hid'
    exact hid.2.symm.trans hid'.2
  have hnodup : ((ofElements d elements).members.flatMap (·.2)).Nodup := by
    refine List.nodup_flatMap.2 ⟨fun p hp => ?_, hlists⟩
    rw [mem_members hp]
    exact (nodup_distinct _).sublist (membersOf_sublist d elements p.1)
  refine (List.perm_ext_iff_of_nodup hnodup (nodup_distinct _)).2 fun id => ?_
  rw [List.mem_flatMap, mem_distinct]
  constructor
  · rintro ⟨p, hp, hid⟩
    rw [mem_members hp] at hid
    exact (mem_membersOf.1 hid).1
  · intro hid
    -- the list of its bucket is in the table
    have hmember : id ∈ (ofElements d elements).membersOf ((ofElements d elements).bucketOf id) :=
      mem_membersOf.2 ⟨hid, rfl⟩
    rw [membersOf] at hmember
    cases hlist : (ofElements d elements).members.lookup
        ((ofElements d elements).bucketOf id) with
    | none =>
      rw [hlist] at hmember
      cases hmember
    | some ids =>
      rw [hlist] at hmember
      exact ⟨_, Table.mem_of_lookup_eq_some hlist, hmember⟩

/-! ### The partition -/

/-- A containment that divides a list of elements among the buckets of a document. -/
structure Partitions (d : Document) (elements : List Element) (c : Containment) : Prop where
  /-- The identifiers of the list have a bucket each, in the order of first use. -/
  keys : c.byElement.map (·.1) = distinct (elements.map (·.id))
  /-- The first element with an identifier tells its bucket. -/
  first : ∀ front e back, elements = front ++ e :: back → e.id ∉ front.map (·.id) →
    c.bucketOf e.id = Bucket.ofHome d e.home
  /-- An identifier of the list is a member of its bucket and of no other. -/
  mem_iff : ∀ id b, id ∈ c.membersOf b ↔ id ∈ elements.map (·.id) ∧ c.bucketOf id = b
  /-- The members of a bucket stand in the order of the list. -/
  order : ∀ b, (c.membersOf b).Sublist (distinct (elements.map (·.id)))
  /-- The buckets in use have a list of members each. -/
  buckets : c.members.map (·.1) = distinct (c.byElement.map (·.2))
  lists : ∀ p ∈ c.members, p.2 = c.membersOf p.1
  /-- Together, these lists hold every identifier once. -/
  once : (c.members.flatMap (·.2)).Perm (distinct (elements.map (·.id)))
  /-- Only buckets of the document are in use. -/
  offered : ∀ p ∈ c.byElement, d.Offers p.2

/-- **Containment is a total partition**: every list of elements, with whatever repetitions, is
divided among the lanes of the document, its declared pools without lanes, and the place of what
belongs nowhere. A home that is the name of a lane leads to the first lane of that name, and one
leads nowhere exactly where the document has no lane and no pool of that name. Each bucket that the
document itself uses has its band. -/
theorem ofElements_partitions (d : Document) (elements : List Element) :
    (ofElements d elements).Partitions d elements ∧
      (∀ front l back, d.lanes = front ++ l :: back → (∀ l' ∈ front, l'.name ≠ l.name) →
        Bucket.ofHome d l.name = l.bucket) ∧
      (∀ home, Bucket.ofHome d home = .unassigned ↔
        d.lanes = [] ∧ home ∉ d.pools.map (·.name)) ∧
      ∀ p ∈ d.containment.byElement, ∃ s ∈ d.shelves, s.bucket = p.2 ∧
        s.members.map (·.id) = d.containment.membersOf p.2 := by
  refine ⟨?_, fun _ _ _ => Bucket.ofHome_name, fun _ => Bucket.ofHome_eq_unassigned_iff,
    fun _ => d.exists_band⟩
  have hholds := holds_ofElements d elements
  refine
    { keys := ?keys
      first := ?first
      mem_iff := fun _ _ => mem_membersOf
      order := membersOf_sublist d elements
      buckets := map_fst_members d elements
      lists := fun _ => mem_members
      once := members_perm d elements
      offered := ?offered }
  case keys =>
    rw [hholds.byElement, List.map_map]
    exact map_id_distinctBy elements
  case first =>
    rintro front e back rfl hfirst
    exact bucketOf_eq (mem_distinctBy_of_first hfirst)
  case offered =>
    intro p hp
    rw [hholds.byElement] at hp
    obtain ⟨e, -, rfl⟩ := List.mem_map.1 hp
    exact d.offers_bucketOf e

/-- A second element with an identifier does not count, and a lane is found before a pool of the
same name. -/
example :
    ofElements ⟨[⟨"A"⟩, ⟨"B"⟩], [⟨"A", "B"⟩], [], []⟩
        [⟨"s", "B", "", .event, none, []⟩, ⟨"t", "C", "", .data, none, []⟩,
          ⟨"s", "A", "", .note, none, []⟩] =
      ⟨[("s", .lane "A" "B"), ("t", .lane "A" "B")], [(.lane "A" "B", ["s", "t"])]⟩ := by
  decide

end Containment

end Swimlane
