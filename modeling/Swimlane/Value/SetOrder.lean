import Swimlane.Value.Basic

/-!
# The order of a set

A set keeps its items in a table of slots. An item goes to the first free slot from the one that its
hash names, and the items stand in the order of their slots. Only the hashes of numbers are the same
each time; a set with other items is taken to keep them in the order of entry.

- `Value.numberHash?`: the hash of a number.
- `SlotTable.size`: the size of the table for a number of items.
- `SlotTable.freeSlot`: the slot that a new item goes to.
- `Value.arranged`: the order of the items of a set.
-/

namespace Swimlane

namespace Value

/-- The prime that hashes of numbers are remainders by. -/
def hashPrime : Nat := Nat.pow 2 61 - 1

/-- The hash of a number, as a whole number below `2 ^ 64`, from its sign, and from its amount,
which is a whole number divided by a power of two. -/
def numberHash (negative : Bool) (num halvings : Nat) : Nat :=
  let rest := num % hashPrime * Nat.pow 2 ((61 - halvings % 61) % 61) % hashPrime
  if !negative || rest = 0 then rest else Nat.pow 2 64 - max rest 2

/-- The hash of a number, or of a truth value. -/
def numberHash? : Value → Option Nat
  | bool b => some (if b then 1 else 0)
  | int n => some (numberHash (n < 0) n.natAbs 0)
  | float x =>
    if x.isNaN then none
    else if x.isInf then some (if x < 0.0 then Nat.pow 2 64 - 314159 else 314159)
    else
      let b := Binary.ofBits (x.toBits.toNat % Nat.pow 2 63)
      let (num, den) := Binary.ratio b.mantissa b.exponent
      some (numberHash (x < 0.0) num den.log2)
  | _ => none

end Value

namespace SlotTable

/-- The least power of two above a bound, not less than a given one. -/
def powerAbove (bound : Nat) : Nat → Nat → Nat
  | 0, size => size
  | fuel + 1, size => if size ≤ bound then powerAbove bound fuel (2 * size) else size

/-- The size of the table for a number of items. -/
def size (count : Nat) : Nat := if count < 5 then 8 else powerAbove (2 * count) count 8

/-- The slots that are looked at together, from one on. -/
def run (size slot : Nat) : List Nat := if slot + 9 < size then List.range' slot 10 else [slot]

/-- The first free slot for an item. When all slots that were looked at are taken, the rest of the
hash tells where to go on; the fuel bounds how often. -/
def freeSlot (taken : List Nat) (size : Nat) : Nat → Nat → Nat → Nat
  | 0, slot, _ => slot
  | fuel + 1, slot, hash =>
    match (run size slot).find? (!taken.contains ·) with
    | some free => free
    | none =>
      let hash := hash / 32
      freeSlot taken size fuel ((5 * slot + 1 + hash) % size) hash

/-- The items by their slots, from their hashes. -/
def place {α : Type} (size : Nat) : List (Nat × α) → List (Nat × α) → List (Nat × α)
  | done, [] => done
  | done, (hash, a) :: rest =>
    place size ((freeSlot (done.map (·.1)) size (size + 16) (hash % size) hash, a) :: done) rest

end SlotTable

/-- What belongs to the items of a set, in the order of the items. -/
def Value.arranged {α : Type} (items : List (Value × α)) : List α :=
  match items.mapM fun p => p.1.numberHash?.map (·, p.2) with
  | some hashed =>
    ((SlotTable.place (SlotTable.size items.length) [] hashed).mergeSort fun a b => a.1 ≤ b.1).map
      (·.2)
  | none => items.map (·.2)

end Swimlane
