import Swimlane.Containment

/-!
# Bands

The bands of a document from top to bottom, with the elements that are placed in each.

Every declared pool has a band, in order, followed by one for each undeclared pool that a lane
names. The first band of a pool holds the bands of its lanes, or its elements in one row if it has
no lanes; a further band of the same pool stays empty, and so does a further band of the same lane.
What belongs nowhere has a last band of its own.

- `Band.Lane`, `Band.Pool`: bands with their elements.
- `Document.bandPools`: the names of the pools that have a band.
- `Band.Claims`: the identifiers and buckets that are already taken.
- `Document.bands`: the bands of a document.
-/

namespace Swimlane

namespace Band

/-- The band of a lane. -/
structure Lane where
  id : String
  label : String
  members : List Element
  deriving DecidableEq, Repr

/-- What the band of a pool holds: lanes one below another, or elements in one row. -/
inductive Content where
  | lanes (bands : List Lane)
  | row (members : List Element)
  deriving DecidableEq, Repr

/-- The band of a pool. -/
structure Pool where
  id : String
  label : String
  content : Content
  deriving DecidableEq, Repr

/-- The identifiers asked for and the buckets placed so far. -/
structure Claims where
  ids : List String
  buckets : List Bucket

namespace Claims

/-- Nothing is taken yet. -/
def none : Claims := ⟨[], []⟩

/-- An identifier for a band: the one asked for, with a running number from its second use on. -/
def bandId (c : Claims) (base : String) : String :=
  let earlier := c.ids.count base
  if earlier = 0 then base else base ++ "#" ++ toString (earlier + 1)

/-- The claims after an identifier was asked for. -/
def addId (c : Claims) (base : String) : Claims := ⟨base :: c.ids, c.buckets⟩

/-- The elements for a band of a bucket: those of the bucket the first time, none later. -/
def membersFor (c : Claims) (members : Bucket → List Element) (bucket : Bucket) : List Element :=
  if bucket ∈ c.buckets then [] else members bucket

/-- The claims after a bucket was placed. -/
def addBucket (c : Claims) (bucket : Bucket) : Claims := ⟨c.ids, bucket :: c.buckets⟩

end Claims

/-- The band of one lane, and the claims after it. -/
def ofLane (members : Bucket → List Element) (c : Claims) (l : Swimlane.Lane) : Lane × Claims :=
  let base := l.bucket.id
  (⟨c.bandId base, l.name, c.membersFor members l.bucket⟩, (c.addId base).addBucket l.bucket)

/-- The bands of lanes one below another, and the claims after them. -/
def ofLanes (members : Bucket → List Element) (c : Claims) :
    List Swimlane.Lane → List Lane × Claims
  | [] => ([], c)
  | l :: rest =>
    let (band, c) := ofLane members c l
    let (bands, c) := ofLanes members c rest
    (band :: bands, c)

/-- The band of a pool with the given lanes, and the claims after it. -/
def ofPool (members : Bucket → List Element) (c : Claims) (name : String)
    (lanes : List Swimlane.Lane) : Pool × Claims :=
  let base := Bucket.poolBandId name
  let id := c.bandId base
  let c := c.addId base
  match lanes with
  | [] =>
    let bucket := Bucket.root name
    (⟨id, name, .row (c.membersFor members bucket)⟩, c.addBucket bucket)
  | lanes =>
    let (bands, c) := ofLanes members c lanes
    (⟨id, name, .lanes bands⟩, c)

/-- The bands of pools, of which those in `earlier` already have one, and the claims after them. -/
def ofPools (d : Document) (members : Bucket → List Element) (earlier : List String) (c : Claims) :
    List String → List Pool
  | [] => []
  | name :: rest =>
    let lanes := if name ∈ earlier then [] else d.lanesOf name
    let (band, c) := ofPool members c name lanes
    band :: ofPools d members (name :: earlier) c rest

/-- The label of the band of what belongs nowhere. -/
def unassignedLabel : String := "Unassigned"

end Band

namespace Document

/-- The pools that lanes name although they are not declared, each once. -/
def undeclaredPools (d : Document) : List String :=
  distinct ((d.lanes.map (·.pool)).filter fun pool => pool ∉ d.pools.map (·.name))

/-- The names of the pools that have a band, from top to bottom. -/
def bandPools (d : Document) : List String := d.pools.map (·.name) ++ d.undeclaredPools

/-- The elements in a bucket, in order. -/
def membersOf (d : Document) (bucket : Bucket) : List Element :=
  (d.containment.membersOf bucket).filterMap d.element?

/-- The bands of a document from top to bottom. -/
def bands (d : Document) : List Band.Pool :=
  let unassigned := d.membersOf .unassigned
  Band.ofPools d d.membersOf [] .none d.bandPools ++
    if unassigned = [] then []
    else [⟨Bucket.unassignedBandId, Band.unassignedLabel, .row unassigned⟩]

end Document

end Swimlane
