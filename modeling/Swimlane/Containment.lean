import Swimlane.Document.Basic

/-!
# Which band an element belongs to

An element names its home by a text. The home is looked for among the lanes first, then among the
pools; an element whose home is unknown goes to the first lane of the document, if it has any.

- `Bucket`: a lane, the root of a pool without lanes, or the place of what belongs nowhere.
- `Bucket.ofHome`: the bucket for a home.
- `Containment`: the bucket of each element of a list, and the elements of each bucket.
- `Containment.ofElements`: both, for a list in which only the first use of an identifier counts.
-/

namespace Swimlane

/-- Where elements are gathered. -/
inductive Bucket where
  | lane (pool name : String)
  | root (pool : String)
  | unassigned
  deriving DecidableEq, Repr

namespace Bucket

/-- The identifier of the band of a pool. -/
def poolBandId (pool : String) : String := "pool-" ++ pool

/-- The identifier of the band of a lane. -/
def laneBandId (pool name : String) : String := "lane-" ++ pool ++ "-" ++ name

/-- The identifier of the band of what belongs nowhere. -/
def unassignedBandId : String := "bucket-unassigned"

/-- The identifier of a bucket. -/
def id : Bucket → String
  | lane pool name => laneBandId pool name
  | root pool => "pool-root-" ++ pool
  | unassigned => unassignedBandId

/-- The name of the kind of a bucket. -/
def kindName : Bucket → String
  | lane _ _ => "sub_container"
  | root _ => "container_root"
  | unassigned => "unassigned"

/-- The pool of a bucket, empty if it has none. -/
def pool : Bucket → String
  | lane pool _ => pool
  | root pool => pool
  | unassigned => ""

/-- The name of the lane of a bucket, empty if it has none. -/
def name : Bucket → String
  | lane _ name => name
  | _ => ""

end Bucket

/-- The bucket of a lane. -/
def Lane.bucket (l : Lane) : Bucket := .lane l.pool l.name

/-- The bucket for a home: the first lane of that name; else the pool of that name, by its first
lane if it has one; else the first lane of the document; else none. -/
def Bucket.ofHome (d : Document) (home : String) : Bucket :=
  match d.lanes.find? (·.name = home) with
  | some l => l.bucket
  | none =>
    if d.pools.any (·.name = home) then
      match d.lanesOf home with
      | l :: _ => l.bucket
      | [] => .root home
    else
      match d.lanes with
      | l :: _ => l.bucket
      | [] => .unassigned

/-- The bucket of each element, and the elements of each bucket, both in order. -/
structure Containment where
  byElement : List (String × Bucket)
  members : List (Bucket × List String)
  deriving DecidableEq, Repr

namespace Containment

/-- Nothing is contained anywhere. -/
def empty : Containment := ⟨[], []⟩

/-- Adds an identifier at the end of the list of its bucket. -/
def addMember (bucket : Bucket) (id : String) :
    List (Bucket × List String) → List (Bucket × List String)
  | [] => [(bucket, [id])]
  | (b, ids) :: rest =>
    if b = bucket then (b, ids ++ [id]) :: rest else (b, ids) :: addMember bucket id rest

/-- Puts an element into its bucket, unless its identifier is already in one. -/
def add (d : Document) (c : Containment) (e : Element) : Containment :=
  if c.byElement.any (·.1 = e.id) then c
  else
    let bucket := Bucket.ofHome d e.home
    ⟨c.byElement ++ [(e.id, bucket)], addMember bucket e.id c.members⟩

/-- The buckets of a list of elements of a document. -/
def ofElements (d : Document) (elements : List Element) : Containment :=
  elements.foldl (add d) empty

/-- The bucket of an identifier; what is in none is unassigned. -/
def bucketOf (c : Containment) (id : String) : Bucket :=
  (c.byElement.lookup id).getD .unassigned

/-- The identifiers in a bucket, in order. -/
def membersOf (c : Containment) (bucket : Bucket) : List String :=
  (c.members.lookup bucket).getD []

end Containment

/-- The buckets of the elements of a document. -/
def Document.containment (d : Document) : Containment :=
  Containment.ofElements d d.uniqueElements

end Swimlane
