import Swimlane.Text.Digits
import Swimlane.Text.Quoted
import Swimlane.Text.Split

/-!
# Addresses of requests

A request is addressed by a path, which may stand behind a scheme and a host and in front of a query
and a fragment. Only the path matters. It is taken from the root, without steps that stay (`.`) or
go back (`..`), and escapes in it count twice.

- `Service.Address`: the parts of an address that are looked at.
- `Service.Address.Fault`: what makes an address useless.
- `Service.pathOf`: the path that an address leads to.
-/

namespace Swimlane.Service

/-- The scheme and the host of an address, which may be empty, and its path. -/
structure Address where
  scheme : List Char
  host : List Char
  path : List Char
  deriving DecidableEq, Repr

namespace Address

/-- What makes an address useless. -/
inductive Fault where
  | tooLong
  | control (c : Char) (position : Nat)
  | slashes
  | colon
  deriving DecidableEq, Repr

/-- The wording of a fault. -/
def Fault.message : Fault → String
  | tooLong => "URL too long"
  | control c position =>
    "Invalid non-printable ASCII character in URL, " ++ Text.quoted c.toString ++
      " at position " ++ toString position ++ "."
  | slashes => "Relative URLs cannot have a path starting with '//'"
  | colon => "Relative URLs cannot have a path starting with ':'"

/-- The greatest length of an address. -/
def lengthLimit : Nat := 65536

/-- Whether a character is a control character that an address must not hold. -/
def isControl (c : Char) : Bool := c.toNat < 0x20 || c.toNat = 0x7F

/-- Whether a character may stand in a scheme behind its first letter. -/
def isSchemeChar (c : Char) : Bool := c.isAlphanum || c = '+' || c = '.' || c = '-'

/-- The scheme in front of an address, with what follows its colon; without a colon there is no
scheme, and in front of the first colon there may be nothing. -/
def splitScheme (s : List Char) : List Char × List Char :=
  let scheme := s.takeWhile isSchemeChar
  let begins := (scheme.head?.map Char.isAlpha).getD true
  match s.drop scheme.length with
  | ':' :: rest => if begins then (scheme, rest) else ([], s)
  | _ => ([], s)

/-- Whether a character ends the host. -/
def endsHost (c : Char) : Bool := c = '/' || c = '?' || c = '#'

/-- The host behind two slashes, with what follows it. -/
def splitHost (s : List Char) : List Char × List Char :=
  match s with
  | '/' :: '/' :: rest => (rest.takeWhile (!endsHost ·), rest.dropWhile (!endsHost ·))
  | _ => ([], s)

/-- The parts of an address. -/
def ofText (s : List Char) : Address :=
  let (scheme, rest) := splitScheme s
  let (host, rest) := splitHost rest
  ⟨scheme, host, rest.takeWhile fun c => c ≠ '?' && c ≠ '#'⟩

/-- Whether nothing stands in front of the path. -/
def isBare (a : Address) : Bool := a.scheme.isEmpty && a.host.isEmpty

/-- Whether the path is complete. -/
def isComplete (a : Address) : Bool := !a.scheme.isEmpty && !a.host.isEmpty

/-- The first character that an address must not hold. -/
def firstControl? (s : List Char) : Option (Char × Nat) :=
  (s.zipIdx.find? fun p => isControl p.1)

/-- What makes an address useless, if anything does. -/
def fault? (s : List Char) : Option Fault :=
  let a := ofText s
  if lengthLimit < s.length then some .tooLong
  else
    match firstControl? s with
    | some (c, position) => some (.control c position)
    | none =>
      if !a.isBare then none
      else if "//".toList.isPrefixOf a.path then some .slashes
      else if a.path.head? = some ':' then some .colon
      else none

end Address

/-- One step along a path whose names stand backwards. -/
def step (done : List (List Char)) (name : List Char) : List (List Char) :=
  if name = ['.'] then done
  else if name = ['.', '.'] then (if done = [[]] then done else done.drop 1)
  else name :: done

/-- A path without the steps that stay or go back. -/
def straight (path : List Char) : List Char :=
  ['/'].intercalate ((Text.splitAt '/' path).foldl step []).reverse

/-- A path without its escapes. An escape of a byte that is no character by itself stands for a
character that no known path holds. -/
def unescaped : List Char → List Char
  | '%' :: a :: b :: rest =>
    match Text.digitValue? 16 a, Text.digitValue? 16 b with
    | some high, some low =>
      let n := 16 * high + low
      (if n < 0x80 then Char.ofNat n else '\uFFFD') :: unescaped rest
    | _, _ => '%' :: unescaped (a :: b :: rest)
  | c :: rest => c :: unescaped rest
  | [] => []

/-- The path that an address leads to. -/
def pathOf (target : String) : Except Address.Fault String :=
  let s := target.toList
  match Address.fault? s with
  | some fault => .error fault
  | none =>
    let a := Address.ofText s
    let path := if a.isBare then a.path else straight a.path
    let path := if a.isComplete then path else straight ('/' :: path.dropWhile (· = '/'))
    .ok (String.ofList (unescaped (unescaped path)))

end Swimlane.Service
