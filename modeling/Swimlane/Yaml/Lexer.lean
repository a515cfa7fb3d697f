import Swimlane.Yaml.Token

/-!
# Tokens in a text

A text is cut into tokens from left to right. Indentation opens and closes blocks. A colon may turn
out to end a key that began some tokens before it, as long as that key stands on the same line and
is not too long; such beginnings are noted apart and put in at the end.

- `Lexer`: what has been found up to a place.
- `Lexer.step`: the next token.
- `Token.ofText`: the tokens of a text, and what is wrong with it behind them.
-/

namespace Swimlane.Yaml

/-- The place of what may turn out to be a key. -/
structure KeyStart where
  token : Nat
  index : Nat
  line : Nat
  column : Nat
  /-- Whether nothing else can stand there. -/
  required : Bool
  deriving DecidableEq, Repr

/-- What has been found up to a place. -/
structure Lexer where
  place : Cursor
  /-- The tokens, the last first, and their number. -/
  tokens : List Token
  count : Nat
  /-- The number of open brackets. -/
  depth : Nat
  /-- The least column that belongs to the current block, and those of the blocks around it. -/
  least : Nat
  outer : List Nat
  /-- Whether a key may begin here. -/
  mayKey : Bool
  /-- What may turn out to be keys, by the number of brackets open there. -/
  keys : List (Nat × KeyStart)
  /-- Where keys begin, and whether a mapping begins with them. -/
  openings : List (Nat × Bool)
  finished : Bool

namespace Lexer

/-- The longest key whose end is looked for. -/
def keyLength : Nat := 1024

/-- The beginning of a text. -/
def start (text : List Char) : Lexer := ⟨.start text, [], 0, 0, 0, [], true, [], [], false⟩

/-- Adds a token. -/
def emit (t : Token) (l : Lexer) : Lexer :=
  { l with tokens := t :: l.tokens, count := l.count + 1 }

/-- Goes to a place. -/
def goTo (c : Cursor) (l : Lexer) : Lexer := { l with place := c }

/-- Passes a mark of some characters. -/
def mark (t : Token) (width : Nat) (l : Lexer) : Lexer := (l.goTo (l.place.advance width)).emit t

/-- Allows or forbids a key here. -/
def allow (may : Bool) (l : Lexer) : Lexer := { l with mayKey := may }

/-- Closes the blocks whose least column is above a bound. -/
def unwindFrom (bound : Nat) : List Nat → Lexer → Lexer
  | [], l => l
  | least :: outer, l =>
    if bound < l.least then unwindFrom bound outer { l.emit .blockEnd with least, outer } else l

/-- Closes blocks, unless brackets are open. -/
def unwind (bound : Nat) (l : Lexer) : Lexer :=
  if l.depth = 0 then unwindFrom bound l.outer l else l

/-- Whether a block may begin at a column, that is, whether it is deeper than the current one. -/
def opensAt (column : Nat) (l : Lexer) : Bool := l.least ≤ column

/-- Opens a block at a column. -/
def indent (column : Nat) (l : Lexer) : Lexer :=
  { l with least := column + 1, outer := l.least :: l.outer }

/-- Opens a block here if it is deeper than the current one, with the token for it. -/
def openBlock (t : Token) (l : Lexer) : Lexer :=
  if l.depth = 0 && l.opensAt l.place.column then (l.indent l.place.column).emit t else l

/-- Whether a beginning is too far away to be that of a key. -/
def isStale (c : Cursor) (k : KeyStart) : Bool :=
  k.line ≠ c.line || keyLength < c.index - k.index

/-- Forgets what can be no key any more; a required one must not be forgotten. -/
def dropStale (l : Lexer) : Except Fault Lexer :=
  let stale (p : Nat × KeyStart) : Bool := isStale l.place p.2
  if l.keys.any fun p => stale p && p.2.required then .error .malformed
  else .ok { l with keys := l.keys.filter (!stale ·) }

/-- Forgets what may be a key between the innermost brackets. -/
def dropKey (l : Lexer) : Except Fault Lexer :=
  if (l.keys.lookup l.depth).any (·.required) then .error .malformed
  else .ok { l with keys := l.keys.filter (·.1 ≠ l.depth) }

/-- Notes that a key may begin here. -/
def noteKey (l : Lexer) : Except Fault Lexer :=
  if !l.mayKey then .ok l
  else do
    let l ← l.dropKey
    let c := l.place
    let required := l.depth = 0 && l.least = c.column + 1
    .ok { l with keys := (l.depth, ⟨l.count, c.index, c.line, c.column, required⟩) :: l.keys }

/-- A token that ends all blocks. -/
def border (t : Token) (width : Nat) (l : Lexer) : Except Fault Lexer := do
  let l ← (l.unwind 0).dropKey
  .ok ((l.allow false).mark t width)

/-- The end of the text. -/
def finish (l : Lexer) : Except Fault Lexer := do
  let l ← (l.unwind 0).dropKey
  .ok { (l.allow false).emit .textEnd with keys := [], finished := true }

/-- An opening bracket. -/
def bracketOpen (t : Token) (l : Lexer) : Except Fault Lexer := do
  let l ← l.noteKey
  .ok (({ l with depth := l.depth + 1 }.allow true).mark t 1)

/-- A closing bracket. -/
def bracketClose (t : Token) (l : Lexer) : Except Fault Lexer := do
  let l ← l.dropKey
  .ok (({ l with depth := l.depth - 1 }.allow false).mark t 1)

/-- A comma. -/
def comma (l : Lexer) : Except Fault Lexer := do
  let l ← l.dropKey
  .ok ((l.allow true).mark .comma 1)

/-- A dash before an item. -/
def dash (l : Lexer) : Except Fault Lexer := do
  if l.depth = 0 && !l.mayKey then .error .malformed
  let l ← (l.openBlock .blockList).dropKey
  .ok ((l.allow true).mark .dash 1)

/-- A question mark before a key. -/
def question (l : Lexer) : Except Fault Lexer := do
  if l.depth = 0 && !l.mayKey then .error .malformed
  let l ← (l.openBlock .blockMapping).dropKey
  .ok ((l.allow (l.depth = 0)).mark .key 1)

/-- A colon before a value: it ends the key that was noted, or stands on its own. -/
def colon (l : Lexer) : Except Fault Lexer :=
  match l.keys.lookup l.depth with
  | some k =>
    let l := { l with keys := l.keys.filter (·.1 ≠ l.depth) }
    let opens := l.depth = 0 && l.opensAt k.column
    let l := if opens then l.indent k.column else l
    .ok (({ l with openings := (k.token, opens) :: l.openings }.allow false).mark .value 1)
  | none => do
    if l.depth = 0 && !l.mayKey then .error .malformed
    let l ← (l.openBlock .blockMapping).dropKey
    .ok ((l.allow (l.depth = 0)).mark .value 1)

/-- A token that may be a key. -/
def atom (read : Cursor → Except Fault (Token × Cursor)) (l : Lexer) : Except Fault Lexer := do
  let l ← l.noteKey
  let (t, c) ← read l.place
  .ok (((l.allow false).goTo c).emit t)

/-- A plain scalar. -/
def plain (l : Lexer) : Except Fault Lexer := do
  let l ← l.noteKey
  let (s, ended, c) := l.place.plain (0 < l.depth) l.least
  .ok (((l.allow ended).goTo c).emit (.scalar s))

/-- A block scalar. -/
def block (l : Lexer) : Except Fault Lexer := do
  let l ← (l.allow true).dropKey
  let (s, c) ← l.place.block (max l.least 1)
  .ok ((l.goTo c).emit (.scalar s))

/-- Whether a plain scalar can begin with a character before a text. -/
def beginsPlain (flow : Bool) (ch : Char) (rest : List Char) : Bool :=
  !(isBlank ch || "-?:,[]\x7b\x7d#&*!|>'\"%@\x60".toList.contains ch) ||
    !atBlank rest && (ch = '-' || !flow && (ch = '?' || ch = ':'))

/-- The token that begins here with a character. -/
def stepAt (ch : Char) (rest : List Char) (l : Lexer) : Except Fault Lexer :=
  let flow := 0 < l.depth
  if ch = '%' && l.place.column = 0 then do
    let l ← (l.unwind 0).dropKey
    let (d, c) ← l.place.directive
    .ok (((l.allow false).goTo c).emit (.directive d))
  else if l.place.column = 0 && l.place.spellsMarker then
    l.border (if ch = '-' then .documentStart else .documentEnd) 3
  else if ch = '[' then l.bracketOpen .listOpen
  else if ch = '\x7b' then l.bracketOpen .mappingOpen
  else if ch = ']' then l.bracketClose .listClose
  else if ch = '\x7d' then l.bracketClose .mappingClose
  else if ch = ',' then l.comma
  else if ch = '-' && atBlank rest then l.dash
  else if ch = '?' && (flow || atBlank rest) then l.question
  else if ch = ':' && (flow || atBlank rest) then l.colon
  else if ch = '*' || ch = '&' then
    l.atom fun c =>
      match c.anchorName? with
      | some (name, c) => .ok (if ch = '*' then .reference name else .anchor name, c)
      | none => .error .malformed
  else if ch = '!' then
    l.atom fun c =>
      match c.tag? with
      | some (t, c) => .ok (.tag t, c)
      | none => .error .malformed
  else if !flow && (ch = '|' || ch = '>') then l.block
  else if ch = '\'' || ch = '"' then
    l.atom fun c => (c.quoted ch).map fun (s, c) => (.scalar s, c)
  else if beginsPlain flow ch rest then l.plain
  else .error .malformed

/-- The next token. -/
def step (l : Lexer) : Except Fault Lexer := do
  let c := l.place.skip
  let may := l.mayKey || l.depth = 0 && l.place.line < c.line
  let l ← ((l.goTo c).allow may).dropStale
  let l := l.unwind (c.column + 1)
  match c.rest with
  | [] => l.finish
  | ch :: rest => l.stepAt ch rest

/-- The tokens up to the end of a text, or up to a fault. Of a text that breaks off, a token that
reaches to the end may go on behind it, and does not count. -/
def run (broken : Option Fault) : Nat → Lexer → Lexer × Fault
  | 0, l => (l, .malformed)
  | fuel + 1, l =>
    match l.step, broken with
    | .error .unfinished, some f => (l, f)
    | .error f, _ => (l, f)
    | .ok next, some f => if next.place.rest.isEmpty then (l, f) else run broken fuel next
    | .ok next, none => if next.finished then (next, .malformed) else run broken fuel next

/-- Puts in the beginnings of keys, which are sorted, before tokens that are numbered from `i`. -/
def withOpenings : List (Nat × Bool) → Nat → List Token → List Token
  | _, _, [] => []
  | [], _, tokens => tokens
  | (at_, opens) :: openings, i, t :: tokens =>
    if at_ = i then
      (if opens then [.blockMapping, .key] else [.key]) ++ t :: withOpenings openings (i + 1) tokens
    else t :: withOpenings ((at_, opens) :: openings) (i + 1) tokens

/-- All tokens in their order. -/
def allTokens (l : Lexer) : List Token :=
  withOpenings (l.openings.mergeSort fun a b => a.1 ≤ b.1) 0 l.tokens.reverse

end Lexer

/-- The tokens of a text, and the fault behind them. A text may break off with a fault; then only
what stands surely before it counts. -/
def Token.ofText (text : List Char) (broken : Option Fault) : List Token × Fault :=
  let (l, fault) := (Lexer.start text).run broken (text.length + 2)
  (l.allTokens, fault)

end Swimlane.Yaml
