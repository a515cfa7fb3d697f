import Swimlane.Text.Base64
import Swimlane.Value.Basic
import Swimlane.Yaml.Graph
import Swimlane.Yaml.Moment
import Swimlane.Yaml.Number

/-!
# Values of YAML nodes

The nodes of a text are looked at from the outermost one inwards, level by level, so that the first
fault on this way is the one that is told. If there is none, every node has a value.

- `Meaning`: what is known of the nodes.
- `Meaning.survey`: looks at all nodes.
- `Graph.value`: the value of the outermost node.
-/

namespace Swimlane.Yaml

/-- What is known of the nodes: the values of the scalars, and the collections that were met but
not looked into yet. -/
structure Meaning where
  nodes : Graph
  scalars : Array (Option Value)
  met : Array Bool
  queue : List Nat

/-- A step of looking at nodes. -/
abbrev Look (α : Type) := StateT Meaning (Except Fault) α

namespace Meaning

/-- The node with a number. -/
def nodeAt (id : Nat) : Look Node := do
  match (← get).nodes[id]? with
  | some n => return n
  | none => throw .malformed

/-- The text of a node that is taken for a scalar. A mapping has the text of its value `=`. -/
def textOf : Nat → Nat → Look Scalar
  | 0, _ => throw .malformed
  | fuel + 1, id => do
    match (← nodeAt id).content with
    | .scalar s => return s
    | .list _ => throw .malformed
    | .mapping pairs =>
      let named ← pairs.filterM fun p => do return (← nodeAt p.1).kind = .value
      match named with
      | (_, v) :: _ => textOf fuel v
      | [] => throw .malformed

/-- The spellings of truth values in small letters. -/
def truthWords : List (String × Bool) :=
  [("yes", true), ("no", false), ("true", true), ("false", false), ("on", true), ("off", false)]

/-- The truth value that a word names. -/
def truth (s : List Char) : Except Fault Value :=
  let word := String.ofList (Text.lower s)
  match truthWords.lookup word with
  | some b => .ok (.bool b)
  | none => .error (.notTruth (.whole word))

/-- The bytes that a text writes. -/
def binary (s : List Char) : Except Fault Value :=
  if s.any fun c => 0x80 ≤ c.toNat then .error .malformed
  else
    match Base64.decode? s with
    | some bytes => .ok (.bytes bytes)
    | none => .error .malformed

/-- The date or moment that a text writes. -/
def timestamp (s : List Char) : Except Fault Value :=
  (dateOrMoment s).map fun
    | .inl d => .date d
    | .inr m => .moment m

/-- The value of a text of a kind. -/
def wholeValue (kind : Kind) (s : List Char) : Except Fault Value :=
  match kind with
  | .null => .ok .null
  | .bool => truth s
  | .int => (whole s).map .int
  | .float => (double s).map .float
  | .binary => binary s
  | .timestamp => timestamp s
  | .str => .ok (.str (String.ofList s))
  | _ => .error .malformed

/-- The value of a torn text of a kind. It spells no number, truth value or moment. -/
def tornValue (kind : Kind) (text : Text.Torn) : Except Fault Value :=
  match kind with
  | .null => .ok .null
  | .bool => .error (.notTruth (.torn text))
  | .int => .error (.numeral (.notDigits 10 (.torn text)))
  | .float => .error (.notDouble (.torn text))
  | .timestamp => .error .notMoment
  | .str => .ok (.torn text)
  | _ => .error .malformed

/-- The value of a scalar of a kind. -/
def scalarValue (kind : Kind) (s : Scalar) : Except Fault Value :=
  match s.text with
  | .whole text => wholeValue kind text.toList
  | .torn text => tornValue kind text

/-- Looks at a node: finds the value of a scalar, and notes a collection. -/
def meet (id : Nat) : Look Unit := do
  let m ← get
  let n ← nodeAt id
  if n.kind.isCollection then
    if m.met[id]? ≠ some true then
      set { m with met := m.met.setIfInBounds id true, queue := id :: m.queue }
  else if (m.scalars[id]?.getD none).isNone then
    if [Kind.merge, .value, .unknown].contains n.kind then throw .malformed
    let s ← textOf (m.nodes.size + 1) id
    if n.kind = .timestamp then
      if let .mapping _ := n.content then throw .momentOfMapping
    let v ← scalarValue n.kind s
    modify fun m => { m with scalars := m.scalars.setIfInBounds id (some v) }

/-- Looks at a pair of a mapping, whose key must be no collection. -/
def meetPair (p : Nat × Nat) : Look Unit := do
  meet p.1
  if (← nodeAt p.1).kind.isCollection then throw .malformed
  meet p.2

/-- The pairs of a mapping. -/
def pairsOf (id : Nat) : Look (List (Nat × Nat)) := do
  match (← nodeAt id).content with
  | .mapping pairs => return pairs
  | _ => throw .malformed

/-- Gives a mapping other pairs. -/
def setPairs (id : Nat) (pairs : List (Nat × Nat)) : Look Unit :=
  modify fun m =>
    { m with nodes := m.nodes.modify id fun n => { n with content := .mapping pairs } }

mutual
/-- Puts the pairs of merged mappings in front of those of a mapping. -/
def flatten : Nat → Nat → Look Unit
  | 0, _ => throw .malformed
  | fuel + 1, id => do
    let special ← (← pairsOf id).anyM fun p => return [.merge, .value].contains (← nodeAt p.1).kind
    if special then
      let merged ← mergesOf fuel id 0
      setPairs id (merged ++ (← pairsOf id))

/-- Takes the merging pairs of a mapping off, from the pair with a number on; the result holds the
pairs of what they merge. A key `=` is a text. -/
def mergesOf : Nat → Nat → Nat → Look (List (Nat × Nat))
  | 0, _, _ => throw .malformed
  | fuel + 1, id, i => do
    let pairs ← pairsOf id
    match pairs[i]? with
    | none => return []
    | some (k, v) =>
      match (← nodeAt k).kind with
      | .merge =>
        setPairs id (pairs.eraseIdx i)
        let found ← match (← nodeAt v).content with
          | .mapping _ => mergedPairs fuel v
          | .list items => do
            let parts ← mergedAll fuel items
            pure parts.reverse.flatten
          | .scalar _ => throw .malformed
        return found ++ (← mergesOf fuel id i)
      | .value =>
        modify fun m => { m with nodes := m.nodes.modify k fun n => { n with kind := .str } }
        mergesOf fuel id (i + 1)
      | _ => mergesOf fuel id (i + 1)

/-- The pairs of a mapping with those of what it merges. -/
def mergedPairs : Nat → Nat → Look (List (Nat × Nat))
  | 0, _ => throw .malformed
  | fuel + 1, id => do
    flatten fuel id
    pairsOf id

/-- The pairs of several mappings. -/
def mergedAll : Nat → List Nat → Look (List (List (Nat × Nat)))
  | 0, _ => throw .malformed
  | _, [] => return []
  | fuel + 1, id :: rest => do
    let first ← mergedPairs fuel id
    return first :: (← mergedAll fuel rest)
end

/-- Looks into a collection. -/
def lookInto (fuel id : Nat) : Look Unit := do
  let n ← nodeAt id
  match n.kind, n.content with
  | .seq, .list items => items.forM meet
  | .pairs, .list items =>
    items.forM fun item => do
      match ← pairsOf item with
      | [p] =>
        meet p.1
        meet p.2
      | _ => throw .malformed
  | .map, .mapping _ | .set, .mapping _ =>
    flatten fuel id
    (← pairsOf id).forM meetPair
  | _, _ => throw .malformed

/-- Looks into all collections that are met, in the order in which they are. -/
def lookAround (inner : Nat) : Nat → Look Unit
  | 0 => throw .malformed
  | fuel + 1 => do
    match (← get).queue.reverse with
    | [] => return ()
    | ids =>
      modify fun m => { m with queue := [] }
      ids.forM (lookInto inner)
      lookAround inner fuel

/-- How deep merged mappings can lead: a step takes a pair off or goes one pair further, and with
every mapping that is merged the number of pairs can double. -/
def mergeFuel (g : Graph) : Nat :=
  let parts := g.foldl (fun n node =>
    match node.content with
    | .mapping pairs => n + pairs.length
    | .list items => n + items.length
    | .scalar _ => n) 0
  4 * (parts + g.size + 2) * Nat.pow 2 (min parts 40)

/-- Looks at all nodes from the outermost one on. -/
def survey (root : Nat) : Look Unit := do
  let g := (← get).nodes
  meet root
  lookAround (mergeFuel g) (g.size + 2)

/-- Nothing is known at first. -/
def start (g : Graph) : Meaning :=
  ⟨g, Array.replicate g.size none, Array.replicate g.size false, []⟩

/-! ## Values -/

/-- The values of collections that hold no mark of a collection around them, by their nodes. -/
abbrev Known := Array (Option Value)

/-- What stands for a collection inside itself. -/
def again (kind : Kind) : Value := if kind = .map then .mapAgain else .listAgain

/-- The pairs of a node; only a mapping has any. -/
def pairsAt (m : Meaning) (id : Nat) : List (Nat × Nat) :=
  match m.nodes[id]? with
  | some ⟨_, .mapping pairs⟩ => pairs
  | _ => []

mutual
/-- The value of a node inside the collections of a path, and whether it holds no mark of one of
them. Only collections from the third level on are marked, so that a section and its members always
have all their parts. -/
def unfold (m : Meaning) : Nat → Nat → List Nat → Nat → StateM Known (Value × Bool)
  | 0, _, _, _ => return (.null, true)
  | fuel + 1, level, path, id => do
    match m.nodes[id]? with
    | none => return (.null, true)
    | some n =>
      if !n.kind.isCollection then return ((m.scalars[id]?.getD none).getD .null, true)
      if path.contains id then return (again n.kind, false)
      if let some (some v) := (← get)[id]? then return (v, true)
      let path := if level < 2 then path else id :: path
      let (v, closed) ← match n.kind, n.content with
        | .pairs, .list items => do
          let pairs := items.flatMap m.pairsAt
          let (parts, closed) ← unfoldPairs m fuel (level + 1) path pairs
          pure (Value.list (parts.map fun p => .pair p.1 p.2), closed)
        | _, .list items => do
          let (parts, closed) ← unfoldItems m fuel (level + 1) path items
          pure (Value.list parts, closed)
        | kind, .mapping pairs => do
          let (parts, closed) ← unfoldPairs m fuel (level + 1) path pairs
          let members := Value.ofPairs parts
          pure (if kind = .set then Value.set (members.map (·.1)) else .map members, closed)
        | _, .scalar _ => pure (.null, true)
      if closed && 1 < level then modify fun known => known.setIfInBounds id (some v)
      return (v, closed || level < 3)

/-- The values of items. -/
def unfoldItems (m : Meaning) : Nat → Nat → List Nat → List Nat → StateM Known (List Value × Bool)
  | 0, _, _, _ => return ([], true)
  | _, _, _, [] => return ([], true)
  | fuel + 1, level, path, id :: rest => do
    let (v, closed) ← unfold m fuel level path id
    let (vs, all) ← unfoldItems m fuel level path rest
    return (v :: vs, closed && all)

/-- The values of pairs. -/
def unfoldPairs (m : Meaning) :
    Nat → Nat → List Nat → List (Nat × Nat) → StateM Known (List (Value × Value) × Bool)
  | 0, _, _, _ => return ([], true)
  | _, _, _, [] => return ([], true)
  | fuel + 1, level, path, (k, v) :: rest => do
    let (key, keyClosed) ← unfold m fuel level path k
    let (value, closed) ← unfold m fuel level path v
    let (more, all) ← unfoldPairs m fuel level path rest
    return ((key, value) :: more, keyClosed && closed && all)
end

end Meaning

/-- The value of a node of a graph. -/
def Graph.value (g : Graph) (root : Nat) : Except Fault Value := do
  let (_, m) ← (Meaning.survey root).run (.start g)
  let fuel := Meaning.mergeFuel m.nodes
  .ok ((Meaning.unfold m fuel 0 [] root).run (Array.replicate g.size none)).1.1

end Swimlane.Yaml
