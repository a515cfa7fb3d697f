import Swimlane.Proofs.Containment

/-!
# Shelves

Bands are built by asking for identifiers and buckets one after another. A bucket that was claimed
before is answered with no elements, an identifier that was claimed before with a running number.

- `Band.Shelf`: a band with the elements that stand directly in it.
- `Band.shelve`: a shelf for each bucket of a list, where only its first shelf holds elements.
- `Band.exists_mem_shelve`: every bucket that was not placed before has such a shelf.
- `Band.Claims.Agrees`: claims that are answered alike.
- `Band.members_shelve_perm`: the elements of the buckets stand on exactly one shelf each.
- `Band.shelve_pairwise`: what stands on a shelf belongs to no earlier one.
-/

namespace Swimlane

/-- The identifier that the band of a bucket asks for. -/
def Bucket.bandBase : Bucket → String
  | root pool => poolBandId pool
  | b => b.id

namespace Band

/-- A band with the elements that stand directly in it. -/
structure Shelf where
  bucket : Bucket
  id : String
  members : List Element
  deriving DecidableEq, Repr

namespace Claims

/-- The claims after the band of a bucket asked for its identifier and its elements. -/
def add (c : Claims) (b : Bucket) : Claims := (c.addId b.bandBase).addBucket b

/-- The claims after the bands of some buckets. -/
def addAll (c : Claims) (keys : List Bucket) : Claims := keys.foldl add c

/-- The band of a bucket. -/
def shelf (members : Bucket → List Element) (c : Claims) (b : Bucket) : Shelf :=
  ⟨b, c.bandId b.bandBase, c.membersFor members b⟩

theorem mem_buckets_addAll {c : Claims} {keys : List Bucket} {b : Bucket} :
    b ∈ (c.addAll keys).buckets ↔ b ∈ keys ∨ b ∈ c.buckets := by
  induction keys generalizing c with
  | nil => simp [addAll]
  | cons k rest ih =>
    have hadd : (c.addAll (k :: rest)) = (c.add k).addAll rest := rfl
    have hbuckets : (c.add k).buckets = k :: c.buckets := rfl
    rw [hadd, ih, hbuckets, List.mem_cons, List.mem_cons]
    tauto

theorem ids_addAll (c : Claims) (keys : List Bucket) :
    (c.addAll keys).ids = (keys.map (·.bandBase)).reverse ++ c.ids := by
  induction keys generalizing c with
  | nil => rfl
  | cons k rest ih =>
    have hadd : (c.addAll (k :: rest)) = (c.add k).addAll rest := rfl
    have hids : (c.add k).ids = k.bandBase :: c.ids := rfl
    simp [hadd, ih, hids]

end Claims

/-- The bands of some buckets one after another. -/
def shelve (members : Bucket → List Element) (c : Claims) : List Bucket → List Shelf
  | [] => []
  | b :: rest => c.shelf members b :: shelve members (c.add b) rest

variable {members : Bucket → List Element} {c c' : Claims}

theorem shelve_append (c : Claims) (keys keys' : List Bucket) :
    shelve members c (keys ++ keys') =
      shelve members c keys ++ shelve members (c.addAll keys) keys' := by
  induction keys generalizing c with
  | nil => rfl
  | cons k rest ih => rw [List.cons_append, shelve, shelve, ih]; rfl

theorem map_bucket_shelve (c : Claims) (keys : List Bucket) :
    (shelve members c keys).map (·.bucket) = keys := by
  induction keys generalizing c with
  | nil => rfl
  | cons k rest ih => rw [shelve, List.map_cons, ih]; rfl

/-- The first band of a bucket that was not placed before holds its elements. -/
theorem exists_mem_shelve {keys : List Bucket} {b : Bucket} (hb : b ∈ keys)
    (hc : b ∉ c.buckets) : ∃ s ∈ shelve members c keys, s.bucket = b ∧ s.members = members b := by
  induction keys generalizing c with
  | nil => cases hb
  | cons k rest ih =>
    by_cases hk : b = k
    · subst hk
      exact ⟨_, .head _, rfl, if_neg hc⟩
    · have hadd : b ∉ (c.add k).buckets := by
        simp [Claims.add, Claims.addId, Claims.addBucket, hk, hc]
      obtain ⟨s, hs, hshelf⟩ := ih ((List.mem_cons.1 hb).resolve_left hk) hadd
      exact ⟨s, .tail _ hs, hshelf⟩

/-! ### Claims that are answered alike -/

/-- Both claims give the same identifiers and the same elements. -/
structure Claims.Agrees (members : Bucket → List Element) (c c' : Claims) : Prop where
  ids : c.ids = c'.ids
  membersFor : ∀ b, c.membersFor members b = c'.membersFor members b

namespace Claims.Agrees

theorem refl (c : Claims) : Agrees members c c := ⟨rfl, fun _ => rfl⟩

theorem bandId (h : Agrees members c c') (base : String) : c.bandId base = c'.bandId base := by
  rw [Claims.bandId, Claims.bandId, h.ids]

theorem shelf (h : Agrees members c c') (b : Bucket) : c.shelf members b = c'.shelf members b := by
  rw [Claims.shelf, Claims.shelf, h.bandId, h.membersFor]

theorem addBucket (h : Agrees members c c') (b : Bucket) :
    Agrees members (c.addBucket b) (c'.addBucket b) := by
  refine ⟨h.ids, fun b' => ?_⟩
  have hm := h.membersFor b'
  simp only [Claims.membersFor, Claims.addBucket, List.mem_cons] at hm ⊢
  by_cases hb : b' = b
  · simp [hb]
  · simpa [hb] using hm

/-- To claim a bucket without elements changes no answer. -/
theorem addBucket_right (h : Agrees members c c') {b : Bucket} (hb : members b = []) :
    Agrees members c (c'.addBucket b) := by
  refine ⟨h.ids, fun b' => (h.membersFor b').trans ?_⟩
  simp only [Claims.membersFor, Claims.addBucket, List.mem_cons]
  by_cases hb' : b' = b
  · simp [hb', hb]
  · simp [hb']

theorem addId (h : Agrees members c c') (base : String) :
    Agrees members (c.addId base) (c'.addId base) :=
  ⟨congrArg (base :: ·) h.ids, h.membersFor⟩

theorem add (h : Agrees members c c') (b : Bucket) : Agrees members (c.add b) (c'.add b) :=
  (h.addId b.bandBase).addBucket b

theorem addAll (h : Agrees members c c') (keys : List Bucket) :
    Agrees members (c.addAll keys) (c'.addAll keys) := by
  induction keys generalizing c c' with
  | nil => exact h
  | cons k rest ih => exact ih (h.add k)

theorem shelve (h : Agrees members c c') (keys : List Bucket) :
    shelve members c keys = shelve members c' keys := by
  induction keys generalizing c c' with
  | nil => rfl
  | cons k rest ih => rw [Band.shelve, Band.shelve, h.shelf, ih (h.add k)]

end Claims.Agrees

/-! ### What stands on the shelves -/

section

variable {κ α : Type} [DecidableEq κ]

/-- The items of a list whose key is among some keys and was not seen before: those of the first
of the keys, and those of the others. -/
theorem filter_unseen_perm (key : α → κ) (items : List α) (k : κ) (seen keys : List κ) :
    ((if k ∈ seen then [] else items.filter (key · = k)) ++
        items.filter (fun a => key a ∈ keys ∧ key a ∉ k :: seen)).Perm
      (items.filter fun a => key a ∈ k :: keys ∧ key a ∉ seen) := by
  -- a key that was seen has no items of its own left; those of a new one are put in front
  by_cases hk : k ∈ seen
  · rw [if_pos hk, List.nil_append]
    refine .of_eq (List.filter_congr fun a _ => ?_)
    by_cases ha : key a = k
    · simp [ha, hk]
    · simp [ha]
  · rw [if_neg hk]
    refine .trans (.of_eq ?_) (List.filter_append_perm (key · = k) _)
    rw [List.filter_filter, List.filter_filter]
    congr 1
    · refine List.filter_congr fun a _ => ?_
      by_cases ha : key a = k
      · simp [ha, hk]
      · simp [ha]
    · refine List.filter_congr fun a _ => ?_
      by_cases ha : key a = k
      · simp [ha]
      · simp [ha]

end

variable {elements : List Element} {bucketOf : Element → Bucket} {c : Claims} {keys : List Bucket}

/-- The elements on the shelves are those of the buckets that were not claimed before. -/
theorem members_shelve_perm (elements : List Element) (bucketOf : Element → Bucket) (c : Claims)
    (keys : List Bucket) :
    ((shelve (fun b => elements.filter (bucketOf · = b)) c keys).flatMap (·.members)).Perm
      (elements.filter fun e => bucketOf e ∈ keys ∧ bucketOf e ∉ c.buckets) := by
  induction keys generalizing c with
  | nil => simp [shelve]
  | cons k rest ih =>
    rw [shelve, List.flatMap_cons]
    exact ((ih (c.add k)).append_left _).trans
      (filter_unseen_perm bucketOf elements k c.buckets rest)

/-- What stands on a shelf belongs to its bucket, which was not claimed before. -/
theorem bucketOf_of_mem_shelve {s : Shelf} {e : Element}
    (hs : s ∈ shelve (fun b => elements.filter (bucketOf · = b)) c keys) (he : e ∈ s.members) :
    bucketOf e = s.bucket ∧ bucketOf e ∉ c.buckets := by
  induction keys generalizing c with
  | nil => cases hs
  | cons k rest ih =>
    rcases List.mem_cons.1 hs with rfl | hs
    · have hmem : e ∈ c.membersFor (fun b => elements.filter (bucketOf · = b)) k := he
      rw [Claims.membersFor] at hmem
      split at hmem
      · cases hmem
      · next hk =>
        have hkey : bucketOf e = k := of_decide_eq_true (List.mem_filter.1 hmem).2
        exact ⟨hkey, hkey ▸ hk⟩
    · obtain ⟨hbucket, hfresh⟩ := ih (c := c.add k) hs
      exact ⟨hbucket, fun h => hfresh (.tail _ h)⟩

/-- What stands on a shelf belongs to no earlier one. -/
theorem shelve_pairwise (c : Claims) (keys : List Bucket) :
    (shelve (fun b => elements.filter (bucketOf · = b)) c keys).Pairwise fun s t =>
      ∀ e ∈ t.members, bucketOf e ≠ s.bucket := by
  induction keys generalizing c with
  | nil => exact .nil
  | cons k rest ih =>
    -- when a later shelf was filled, this bucket was claimed
    refine .cons (fun t ht e he heq => ?_) (ih (c.add k))
    have hfresh := (bucketOf_of_mem_shelve ht he).2
    exact hfresh (heq ▸ List.mem_cons_self)

end Band

end Swimlane
