import Swimlane.Yaml.Kind
import Swimlane.Yaml.Lexer

/-!
# Nodes of a YAML text

A text describes nodes: scalars, lists and mappings. A node with an anchor may occur at several
places, also inside itself, so that nodes refer to one another by number.

- `Node`, `Graph`: the nodes of a text.
- `Graph.ofTokens`: the nodes that tokens describe, and the number of the outermost one.
-/

namespace Swimlane.Yaml

/-- What a node consists of. -/
inductive Content where
  | scalar (s : Scalar)
  | list (items : List Nat)
  | mapping (pairs : List (Nat × Nat))
  deriving DecidableEq, Repr

/-- A node. -/
structure Node where
  kind : Kind
  content : Content
  deriving DecidableEq, Repr

/-- The nodes of a text by their numbers. -/
abbrev Graph := Array Node

/-- What has been read of a text: the nodes up to now, the tokens that are left, and how many
collections are open. -/
structure Outline where
  nodes : Graph
  anchors : List (String × Nat)
  handles : List (String × String)
  tokens : List Token
  fault : Fault
  depth : Nat

/-- How many collections may stand inside one another. -/
def nestingLimit : Nat := 480

/-- A step of reading tokens. -/
abbrev Reading (α : Type) := StateT Outline (Except Fault) α

namespace Reading

/-- The next token. -/
def peek : Reading Token := do
  match (← get).tokens with
  | t :: _ => return t
  | [] => throw (← get).fault

/-- Passes the next token. -/
def pass : Reading Unit := modify fun o => { o with tokens := o.tokens.drop 1 }

/-- Whether the next token is one of some; the others stay. -/
def at_ (ts : List Token) : Reading Bool := do return ts.contains (← peek)

/-- Passes the next token if it is a certain one, and tells so. -/
def take (t : Token) : Reading Bool := do
  if (← peek) = t then
    pass
    return true
  else return false

/-- Passes a token that has to be there. -/
def expect (t : Token) : Reading Unit := do
  if !(← take t) then throw .malformed

/-- Adds a node. -/
def add (n : Node) : Reading Nat :=
  modifyGet fun o => (o.nodes.size, { o with nodes := o.nodes.push n })

/-- Gives a node its content. -/
def fill (id : Nat) (content : Content) : Reading Unit :=
  modify fun o => { o with nodes := o.nodes.modify id fun n => { n with content } }

/-- Reads what stands inside a collection. -/
def inside {α : Type} (content : Reading α) : Reading α := do
  if nestingLimit ≤ (← get).depth then throw .tooDeep
  modify fun o => { o with depth := o.depth + 1 }
  let result ← content
  modify fun o => { o with depth := o.depth - 1 }
  return result

/-- The node of a place where nothing stands. -/
def nothing : Reading Nat := add ⟨.null, .scalar ⟨.whole "", true⟩⟩

/-- The whole text of a tag, with the meaning of its handle. -/
def fullTag (t : TagText) : Reading String := do
  match t.handle with
  | none => return t.suffix
  | some handle =>
    match (← get).handles.lookup handle with
    | some meaning => return meaning ++ t.suffix
    | none => throw .malformed

/-- The properties in front of a node, an anchor and a tag in either order. -/
def properties : Reading (Option String × Option String) := do
  match ← peek with
  | .anchor name =>
    pass
    match ← peek with
    | .tag t =>
      pass
      return (some name, some (← fullTag t))
    | _ => return (some name, none)
  | .tag t =>
    pass
    match ← peek with
    | .anchor name =>
      pass
      return (some name, some (← fullTag t))
    | _ => return (none, some (← fullTag t))
  | _ => return (none, none)

/-- Adds a node with its anchor, which must be a new one. -/
def addNamed (anchor : Option String) (n : Node) : Reading Nat := do
  match anchor with
  | none => add n
  | some name =>
    if ((← get).anchors.lookup name).isSome then throw .malformed
    let id ← add n
    modify fun o => { o with anchors := (name, id) :: o.anchors }
    return id

/-- The kind of a node with a tag; a single exclamation mark says nothing. -/
def kindOf (tag : Option String) (default : Kind) : Kind :=
  match tag with
  | none => default
  | some t => if t = "!" then default else .ofTag t

/-- The kind of a scalar without a tag that names one. -/
def spelledKind (tag : Option String) (s : Scalar) : Kind :=
  if s.plain || tag = some "!" then
    match s.text with
    | .whole text => .ofText text.toList
    | .torn _ => .str
  else .str

mutual
/-- The node that begins here. Blocks may begin here only if `block` holds, and lists that are not
indented only if `loose` holds. -/
def node : Nat → Bool → Bool → Reading Nat
  | 0, _, _ => throw .malformed
  | fuel + 1, block, loose => do
    if let .reference name ← peek then
      pass
      match (← get).anchors.lookup name with
      | some id => return id
      | none => throw .malformed
    let (anchor, tag) ← properties
    let list := addNamed anchor ⟨kindOf tag .seq, .list []⟩
    let mapping := addNamed anchor ⟨kindOf tag .map, .mapping []⟩
    match ← peek with
    | .scalar s =>
      pass
      addNamed anchor ⟨kindOf tag (spelledKind tag s), .scalar s⟩
    | .listOpen =>
      let id ← list
      pass
      fill id (.list (← inside (flowItems fuel true [])))
      return id
    | .mappingOpen =>
      let id ← mapping
      pass
      fill id (.mapping (← inside (flowPairs fuel true [])))
      return id
    | t =>
      if loose && t = .dash then
        let id ← list
        fill id (.list (← inside (looseItems fuel [])))
        return id
      else if block && t = .blockList then
        let id ← list
        pass
        fill id (.list (← inside (blockItems fuel [])))
        return id
      else if block && t = .blockMapping then
        let id ← mapping
        pass
        fill id (.mapping (← inside (blockPairs fuel [])))
        return id
      else if anchor.isSome || tag.isSome then
        addNamed anchor ⟨kindOf tag .null, .scalar ⟨.whole "", true⟩⟩
      else throw .malformed

/-- The node that begins here, or nothing if one of some tokens stands here. -/
def nodeUnless : Nat → List Token → Bool → Bool → Reading Nat
  | 0, _, _, _ => throw .malformed
  | fuel + 1, ends, block, loose => do
    if ← at_ ends then nothing else node fuel block loose

/-- The items of a list by indentation, after those already read, which stand backwards. -/
def blockItems : Nat → List Nat → Reading (List Nat)
  | 0, _ => throw .malformed
  | fuel + 1, done => do
    if ← take .dash then
      blockItems fuel ((← nodeUnless fuel [.dash, .blockEnd] true false) :: done)
    else
      expect .blockEnd
      return done.reverse

/-- The items of a list that is not indented deeper than the key before it. -/
def looseItems : Nat → List Nat → Reading (List Nat)
  | 0, _ => throw .malformed
  | fuel + 1, done => do
    if ← take .dash then
      looseItems fuel ((← nodeUnless fuel [.dash, .key, .value, .blockEnd] true false) :: done)
    else return done.reverse

/-- The pairs of a mapping by indentation. -/
def blockPairs : Nat → List (Nat × Nat) → Reading (List (Nat × Nat))
  | 0, _ => throw .malformed
  | fuel + 1, done => do
    let ends := [.key, .value, .blockEnd]
    if ← take .key then
      let k ← nodeUnless fuel ends true true
      let v ← if ← take .value then nodeUnless fuel ends true true else nothing
      blockPairs fuel ((k, v) :: done)
    else
      expect .blockEnd
      return done.reverse

/-- A pair between brackets, behind the mark of its key; `close` is the closing bracket. -/
def flowPair : Nat → Token → Reading (Nat × Nat)
  | 0, _ => throw .malformed
  | fuel + 1, close => do
    let k ← nodeUnless fuel [.value, .comma, close] false false
    let v ← if ← take .value then nodeUnless fuel [.comma, close] false false else nothing
    return (k, v)

/-- The items of a list between brackets; a single pair is an item too. -/
def flowItems : Nat → Bool → List Nat → Reading (List Nat)
  | 0, _, _ => throw .malformed
  | fuel + 1, first, done => do
    if ← take .listClose then return done.reverse
    if !first then expect .comma
    if ← take .key then
      let id ← add ⟨.map, .mapping []⟩
      fill id (.mapping [← inside (flowPair fuel .listClose)])
      flowItems fuel false (id :: done)
    else if ← take .listClose then return done.reverse
    else flowItems fuel false ((← node fuel false false) :: done)

/-- The pairs of a mapping between brackets; a key may stand alone. -/
def flowPairs : Nat → Bool → List (Nat × Nat) → Reading (List (Nat × Nat))
  | 0, _, _ => throw .malformed
  | fuel + 1, first, done => do
    if ← take .mappingClose then return done.reverse
    if !first then expect .comma
    if ← take .key then flowPairs fuel false ((← flowPair fuel .mappingClose) :: done)
    else if ← take .mappingClose then return done.reverse
    else
      let k ← node fuel false false
      flowPairs fuel false ((k, ← nothing) :: done)
end

/-- The handles that are known without a directive. -/
def standardHandles : List (String × String) := [("!", "!"), ("!!", Kind.tagStart)]

/-- The directives in front of a document. A version must not be asked for twice, and must be a
known one; a handle has one meaning. -/
def directives : Nat → Bool → List (String × String) → Reading (List (String × String))
  | 0, _, _ => throw .malformed
  | fuel + 1, versioned, handles => do
    match ← peek with
    | .directive d =>
      pass
      match d with
      | .version major =>
        if versioned || major ≠ 1 then throw .malformed
        directives fuel true handles
      | .handle name meaning =>
        if (handles.lookup name).isSome then throw .malformed
        directives fuel versioned ((name, meaning) :: handles)
      | .other => directives fuel versioned handles
    | _ => return handles

/-- Passes the marks of the end of a document. -/
def documentEnds : Nat → Reading Unit
  | 0 => throw .malformed
  | fuel + 1 => do if ← take .documentEnd then documentEnds fuel

/-- The only document of a text, if there is one. -/
def document (fuel : Nat) : Reading (Option Nat) := do
  if ← at_ [.textEnd] then return none
  let explicit := match ← peek with
    | .directive _ | .documentStart => true
    | _ => false
  let root ←
    if explicit then
      let handles ← directives fuel false []
      modify fun o => { o with handles := handles ++ standardHandles }
      expect .documentStart
      match ← peek with
      | .directive _ | .documentStart | .documentEnd | .textEnd => nothing
      | _ => node fuel true false
    else node fuel true false
  documentEnds fuel
  expect .textEnd
  return some root

end Reading

/-- The nodes that tokens describe, and the outermost one, if there is any. The fault stands behind
the tokens. -/
def Graph.ofTokens (tokens : List Token) (fault : Fault) : Except Fault (Graph × Option Nat) :=
  let start : Outline := ⟨#[], [], Reading.standardHandles, tokens, fault, 0⟩
  ((Reading.document (4 * tokens.length + 8)).run start).map fun (root, o) => (o.nodes, root)

end Swimlane.Yaml
