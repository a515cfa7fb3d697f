import Swimlane.Proofs.Grid.Shelf

/-!
# The bands of a document as shelves

The bands from top to bottom, those of lanes behind the band of their pool, are a list of shelves:
one for each bucket in `Document.bandBuckets`.

- `Document.shelves_eq_shelve`: the bands of a document are the shelves of these buckets.
- `Document.neededBands`, `Document.bandBuckets_perm`: which buckets have a band, and how often.
- `Document.members_shelves_perm`: every element stands on exactly one shelf.
- `Document.exists_mem_shelves`: a bucket with elements has a shelf with all of them.
- `Document.bucketOf_of_mem_shelves`, `Document.shelves_pairwise`: that is the first shelf of its
  bucket.
-/

namespace Swimlane

/-- The bucket of the band of a pool, which is told by its identifier and its label. -/
def Bucket.ofPoolBand (id label : String) : Bucket :=
  if id = unassignedBandId then .unassigned else .root label

namespace Band

variable {members : Bucket → List Element} {c c' : Claims}

/-- The band of a lane of the given pool, as a shelf. -/
def Lane.shelf (pool : String) (b : Lane) : Shelf := ⟨.lane pool b.label, b.id, b.members⟩

/-- The band of a pool and those of its lanes, as shelves. -/
def Pool.shelves (p : Pool) : List Shelf :=
  match p.content with
  | .lanes bands => ⟨.ofPoolBand p.id p.label, p.id, []⟩ :: bands.map (Lane.shelf p.label)
  | .row members => [⟨.ofPoolBand p.id p.label, p.id, members⟩]

/-- A band's identifier is the one it asked for, with something behind it. -/
theorem Claims.exists_bandId_eq (c : Claims) (base : String) : ∃ s, c.bandId base = base ++ s := by
  by_cases h : c.ids.count base = 0
  · exact ⟨"", by simp [bandId, h]⟩
  · exact ⟨"#" ++ toString (c.ids.count base + 1), by simp [bandId, h, String.append_assoc]⟩

/-- The band of a pool is never taken for that of what belongs nowhere. -/
theorem Claims.ofPoolBand_bandId (c : Claims) (name label : String) :
    Bucket.ofPoolBand (c.bandId (Bucket.poolBandId name)) label = .root label := by
  obtain ⟨s, hs⟩ := c.exists_bandId_eq (Bucket.poolBandId name)
  refine if_neg fun h => ?_
  have hchars := congrArg String.toList (hs.symm.trans h)
  simp [Bucket.poolBandId, Bucket.unassignedBandId] at hchars

/-- The bands of lanes of one pool are the shelves of their buckets. -/
theorem ofLanes_eq_shelve (members : Bucket → List Element) (c : Claims) {pool : String}
    {lanes : List Swimlane.Lane} (hpool : ∀ l ∈ lanes, l.pool = pool) :
    (ofLanes members c lanes).1.map (Lane.shelf pool) =
        shelve members c (lanes.map (·.bucket)) ∧
      (ofLanes members c lanes).2 = c.addAll (lanes.map (·.bucket)) := by
  induction lanes generalizing c with
  | nil => exact ⟨rfl, rfl⟩
  | cons l rest ih =>
    obtain ⟨hbands, hclaims⟩ := ih (c.add l.bucket) fun l' hl' => hpool l' (.tail _ hl')
    refine ⟨?_, hclaims⟩
    have hl : l.pool = pool := hpool l (.head _)
    subst hl
    rw [List.map_cons, shelve, ← hbands]
    rfl

/-- The band of a pool and those of its lanes are the shelves of their buckets, if no element
belongs to the root of a pool with lanes. -/
theorem ofPool_eq_shelve (h : Claims.Agrees members c c') {name : String}
    {lanes : List Swimlane.Lane} (hpool : ∀ l ∈ lanes, l.pool = name)
    (hroot : lanes ≠ [] → members (.root name) = []) :
    (ofPool members c name lanes).1.shelves =
        shelve members c' (.root name :: lanes.map (·.bucket)) ∧
      Claims.Agrees members (ofPool members c name lanes).2
        (c'.addAll (.root name :: lanes.map (·.bucket))) := by
  have hbucket := c.ofPoolBand_bandId name name
  cases lanes with
  | nil =>
    refine ⟨?_, h.add (.root name)⟩
    rw [List.map_nil, shelve, ← h.shelf, ofPool, Pool.shelves, hbucket]
    rfl
  | cons l rest =>
    -- the shelf claims the root as well, which the band does not; nothing belongs there
    have hempty := hroot (List.cons_ne_nil _ _)
    have hnext : Claims.Agrees members (c.addId (Bucket.poolBandId name)) (c'.add (.root name)) :=
      (h.addId _).addBucket_right hempty
    obtain ⟨hbands, hclaims⟩ :=
      ofLanes_eq_shelve members (c.addId (Bucket.poolBandId name)) hpool
    constructor
    · have hshelf : c'.shelf members (.root name) =
          ⟨.root name, c.bandId (Bucket.poolBandId name), []⟩ := by
        rw [Claims.shelf, ← h.bandId, Claims.membersFor, hempty, ite_self]
        rfl
      rw [shelve, hshelf, ← hnext.shelve, ← hbands]
      simp only [ofPool, Pool.shelves, hbucket]
    · have hafter := hnext.addAll ((l :: rest).map (·.bucket))
      rw [← hclaims] at hafter
      exact hafter

end Band

namespace Document

open Band

/-- The buckets of the bands of pools, of which those in `earlier` already have one. -/
def poolBuckets (d : Document) (earlier : List String) : List String → List Bucket
  | [] => []
  | name :: rest =>
    .root name :: (if name ∈ earlier then [] else d.lanesOf name).map (·.bucket) ++
      d.poolBuckets (name :: earlier) rest

/-- The buckets that have a band, in the order of the bands. -/
def bandBuckets (d : Document) : List Bucket :=
  d.poolBuckets [] d.bandPools ++ if d.membersOf .unassigned = [] then [] else [.unassigned]

/-- The bands of a document from top to bottom. -/
def shelves (d : Document) : List Shelf := d.bands.flatMap (·.shelves)

theorem mem_lanesOf {d : Document} {name : String} {l : Lane} :
    l ∈ d.lanesOf name ↔ l ∈ d.lanes ∧ l.pool = name := by
  simp [lanesOf]

/-- No element belongs to the root of a pool with lanes. -/
theorem membersOf_root {d : Document} {name : String} (h : d.lanesOf name ≠ []) :
    d.membersOf (.root name) = [] := by
  rw [membersOf_eq_filter]
  refine List.filter_eq_nil_iff.2 fun e _ he => ?_
  have hroot : d.bucketOf e = .root name := of_decide_eq_true he
  rcases d.bucketOf_cases e with ⟨l, -, hl⟩ | ⟨-, hlanes, hhome⟩ | ⟨-, -, hnone⟩
  · cases hl.symm.trans hroot
  · cases hhome.symm.trans hroot
    exact h hlanes
  · cases hnone.symm.trans hroot

theorem ofPools_eq_shelve (d : Document) {c c' : Claims} (h : Claims.Agrees d.membersOf c c')
    (earlier names : List String) :
    (ofPools d d.membersOf earlier c names).flatMap (·.shelves) =
      shelve d.membersOf c' (d.poolBuckets earlier names) := by
  induction names generalizing earlier c c' with
  | nil => rfl
  | cons name rest ih =>
    have hpool : ∀ l ∈ (if name ∈ earlier then [] else d.lanesOf name), l.pool = name := by
      intro l hl
      split at hl
      · cases hl
      · exact (mem_lanesOf.1 hl).2
    have hroot : (if name ∈ earlier then [] else d.lanesOf name) ≠ [] →
        d.membersOf (.root name) = [] := by
      split
      · exact fun hne => absurd rfl hne
      · exact membersOf_root
    obtain ⟨hband, hclaims⟩ := ofPool_eq_shelve h hpool hroot
    rw [ofPools, List.flatMap_cons, hband, ih hclaims, poolBuckets, shelve_append]

/-- A band of a pool or of a lane has the bucket of one. -/
theorem mem_poolBuckets {d : Document} {earlier names : List String} {b : Bucket}
    (h : b ∈ d.poolBuckets earlier names) :
    (∃ name, b = .root name) ∨ ∃ l ∈ d.lanes, b = l.bucket := by
  induction names generalizing earlier with
  | nil => cases h
  | cons name rest ih =>
    rcases List.mem_append.1 h with h | h
    · rcases List.mem_cons.1 h with rfl | h
      · exact .inl ⟨name, rfl⟩
      · obtain ⟨l, hl, rfl⟩ := List.mem_map.1 h
        split at hl
        · cases hl
        · exact .inr ⟨l, (mem_lanesOf.1 hl).1, rfl⟩
    · exact ih h

/-- No pool or lane asks for the identifier of the band of what belongs nowhere. -/
theorem bandBase_ne_unassigned {d : Document} {earlier names : List String} {b : Bucket}
    (h : b ∈ d.poolBuckets earlier names) : b.bandBase ≠ Bucket.unassignedBandId := by
  intro hbase
  have hchars := congrArg String.toList hbase
  rcases mem_poolBuckets h with ⟨name, rfl⟩ | ⟨l, -, rfl⟩
  · simp [Bucket.bandBase, Bucket.poolBandId, Bucket.unassignedBandId] at hchars
  · simp [Bucket.bandBase, Lane.bucket, Bucket.id, Bucket.laneBandId, Bucket.unassignedBandId]
      at hchars

/-- The band of what belongs nowhere is given the identifier it asks for, and its elements. -/
theorem shelf_unassigned (d : Document) :
    (Claims.none.addAll (d.poolBuckets [] d.bandPools)).shelf d.membersOf .unassigned =
      ⟨.unassigned, Bucket.unassignedBandId, d.membersOf .unassigned⟩ := by
  have hid : (Claims.none.addAll (d.poolBuckets [] d.bandPools)).bandId
      (Bucket.bandBase .unassigned) = Bucket.unassignedBandId := by
    refine if_pos (List.count_eq_zero.2 fun hmem => ?_)
    rw [Claims.ids_addAll, Claims.none, List.append_nil, List.mem_reverse] at hmem
    obtain ⟨b, hb, hbase⟩ := List.mem_map.1 hmem
    exact bandBase_ne_unassigned hb hbase
  have hmembers : (Claims.none.addAll (d.poolBuckets [] d.bandPools)).membersFor d.membersOf
      .unassigned = d.membersOf .unassigned := by
    refine if_neg fun hmem => ?_
    rcases Claims.mem_buckets_addAll.1 hmem with hmem | hmem
    · rcases mem_poolBuckets hmem with ⟨_, h⟩ | ⟨_, _, h⟩
      · cases h
      · cases h
    · cases hmem
  rw [Claims.shelf, hid, hmembers]

/-- The bands of a document are the shelves of the buckets that have one. -/
theorem shelves_eq_shelve (d : Document) :
    d.shelves = shelve d.membersOf .none d.bandBuckets := by
  have hpools := ofPools_eq_shelve d (Claims.Agrees.refl .none) [] d.bandPools
  rw [shelves, bands, List.flatMap_append, hpools, bandBuckets, shelve_append]
  congr 1
  by_cases hempty : d.membersOf .unassigned = []
  · rw [if_pos hempty, if_pos hempty]
    rfl
  · rw [if_neg hempty, if_neg hempty, shelve, shelf_unassigned]
    rfl

/-! ### Every bucket has its band -/

theorem mem_bandPools {d : Document} {l : Lane} (h : l ∈ d.lanes) : l.pool ∈ d.bandPools := by
  by_cases hp : l.pool ∈ d.pools.map (·.name)
  · exact List.mem_append_left _ hp
  · refine List.mem_append_right _ (mem_distinct.2 (List.mem_filter.2 ⟨?_, decide_eq_true hp⟩))
    exact List.mem_map_of_mem h

/-- The bands of pools are those of the pools, and those of the lanes of the pools that come up for
the first time. -/
theorem poolBuckets_perm (d : Document) (earlier names : List String) :
    (d.poolBuckets earlier names).Perm (names.map .root ++
      (d.lanes.filter fun l => l.pool ∈ names ∧ l.pool ∉ earlier).map (·.bucket)) := by
  induction names generalizing earlier with
  | nil => simp [poolBuckets]
  | cons name rest ih =>
    have hlanes := (filter_unseen_perm (·.pool) d.lanes name earlier rest).map (·.bucket)
    rw [List.map_append] at hlanes
    refine .cons _ (((ih (name :: earlier)).append_left _).trans ?_)
    refine .trans ?_ (hlanes.append_left (rest.map Bucket.root))
    rw [← List.append_assoc, ← List.append_assoc]
    exact .append_right _ List.perm_append_comm

/-- The bands that a document asks for: one for each declared pool, for each undeclared pool that
lanes name, for each lane, and one for what belongs nowhere if there is any. -/
def neededBands (d : Document) : List Bucket :=
  d.pools.map (.root ·.name) ++ d.undeclaredPools.map .root ++ d.lanes.map (·.bucket) ++
    if ∃ e ∈ d.uniqueElements, d.bucketOf e = .unassigned then [.unassigned] else []

theorem mem_neededBands {d : Document} {b : Bucket} :
    b ∈ d.neededBands ↔ (∃ p ∈ d.pools, b = .root p.name) ∨ (∃ q ∈ d.undeclaredPools, b = .root q) ∨
      (∃ l ∈ d.lanes, b = l.bucket) ∨
      b = .unassigned ∧ ∃ e ∈ d.uniqueElements, d.bucketOf e = .unassigned := by
  simp only [neededBands, List.mem_append, List.mem_map, List.mem_ite_nil_right,
    List.mem_singleton, or_assoc, eq_comm, and_comm]

/-- The bands of a document are those it asks for. -/
theorem bandBuckets_perm (d : Document) : d.bandBuckets.Perm d.neededBands := by
  -- every lane belongs to a pool that has a band, so its own band comes with the first of them
  have hlanes : (d.lanes.filter fun l => l.pool ∈ d.bandPools ∧ l.pool ∉ ([] : List String)) =
      d.lanes :=
    List.filter_eq_self.2 fun l hl => by simpa using mem_bandPools hl
  have hpools := d.poolBuckets_perm [] d.bandPools
  rw [hlanes, bandPools, List.map_append, List.map_map] at hpools
  have hunassigned : d.membersOf .unassigned = [] ↔
      ¬ ∃ e ∈ d.uniqueElements, d.bucketOf e = .unassigned := by
    simp [membersOf_eq_filter]
  refine hpools.append (.of_eq ?_)
  by_cases h : ∃ e ∈ d.uniqueElements, d.bucketOf e = .unassigned
  · rw [if_pos h, if_neg fun hnil => hunassigned.1 hnil h]
  · rw [if_neg h, if_pos (hunassigned.2 h)]

/-- The bucket of every element has a band. -/
theorem bucketOf_mem_bandBuckets {d : Document} {e : Element} (he : e ∈ d.uniqueElements) :
    d.bucketOf e ∈ d.bandBuckets := by
  rw [d.bandBuckets_perm.mem_iff, mem_neededBands]
  rcases d.bucketOf_cases e with ⟨l, hl, hb⟩ | ⟨hpool, -, hb⟩ | ⟨-, -, hb⟩
  · exact .inr (.inr (.inl ⟨l, hl, hb⟩))
  · obtain ⟨p, hp, hname⟩ := List.mem_map.1 hpool
    exact .inl ⟨p, hp, hname ▸ hb⟩
  · exact .inr (.inr (.inr ⟨hb, e, he, hb⟩))

/-- Every element stands on exactly one shelf. -/
theorem members_shelves_perm (d : Document) :
    (d.shelves.flatMap (·.members)).Perm d.uniqueElements := by
  have hall : (d.uniqueElements.filter fun e =>
      d.bucketOf e ∈ d.bandBuckets ∧ d.bucketOf e ∉ Claims.none.buckets) = d.uniqueElements :=
    List.filter_eq_self.2 fun e he => by simpa [Claims.none] using bucketOf_mem_bandBuckets he
  have hperm := members_shelve_perm d.uniqueElements d.bucketOf .none d.bandBuckets
  rw [hall, ← funext d.membersOf_eq_filter, ← shelves_eq_shelve] at hperm
  exact hperm

/-- What stands on a shelf is an element that counts. -/
theorem mem_uniqueElements_of_mem_shelves {d : Document} {s : Shelf} {e : Element}
    (hs : s ∈ d.shelves) (he : e ∈ s.members) : e ∈ d.uniqueElements :=
  d.members_shelves_perm.mem_iff.1 (List.mem_flatMap.2 ⟨s, hs, he⟩)

/-- What stands on a shelf belongs to its bucket. -/
theorem bucketOf_of_mem_shelves {d : Document} {s : Shelf} {e : Element} (hs : s ∈ d.shelves)
    (he : e ∈ s.members) : d.bucketOf e = s.bucket := by
  rw [shelves_eq_shelve, funext d.membersOf_eq_filter] at hs
  exact (bucketOf_of_mem_shelve hs he).1

/-- A bucket with elements has a shelf with all of them. -/
theorem exists_mem_shelves {d : Document} {b : Bucket} (h : d.membersOf b ≠ []) :
    ∃ s ∈ d.shelves, s.bucket = b ∧ s.members = d.membersOf b := by
  obtain ⟨e, he⟩ := List.exists_mem_of_ne_nil _ h
  rw [membersOf_eq_filter] at he
  obtain ⟨hunique, hbucket⟩ := List.mem_filter.1 he
  have hband : b ∈ d.bandBuckets := of_decide_eq_true hbucket ▸ bucketOf_mem_bandBuckets hunique
  rw [shelves_eq_shelve]
  exact exists_mem_shelve hband (List.not_mem_nil)

/-- What stands on a shelf belongs to no earlier one. -/
theorem shelves_pairwise (d : Document) :
    d.shelves.Pairwise fun s t => ∀ e ∈ t.members, d.bucketOf e ≠ s.bucket := by
  rw [shelves_eq_shelve, funext d.membersOf_eq_filter]
  exact shelve_pairwise _ _

end Document

end Swimlane
