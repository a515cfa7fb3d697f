/-!
# Widths of columns

Columns that are too wide together give way, the widest first, until they are as wide as the next
ones.

- `Report.rounded`: a quotient rounded to a whole number.
- `Report.reduced`: takes a number off the columns that share it.
- `Report.fitted`: the widths of columns that fit into a width together.
-/

namespace Swimlane.Report

/-- A quotient rounded to the next whole number, in the middle to the even one. -/
def rounded (n d : Nat) : Nat :=
  let low := n / d
  let rest := 2 * (n % d)
  if rest < d || (rest = d && low % 2 = 0) then low else low + 1

/-- Takes a number off the widths of columns. The columns that share it take equal parts of what is
left, none more than a limit. -/
def reducedWith (limit left sharers : Nat) : List (Nat × Bool) → List Nat
  | [] => []
  | (width, false) :: rest => width :: reducedWith limit left sharers rest
  | (width, true) :: rest =>
    let part := min limit (rounded left sharers)
    (width - part) :: reducedWith limit (left - part) (sharers - 1) rest

/-- Takes a number off the widest columns. They do not become smaller than the next ones. -/
def reduced (excess : Nat) (widths : List Nat) : List Nat :=
  let widest := widths.foldl max 0
  let next := (widths.filter (· ≠ widest)).foldl max 0
  let shared := widths.map fun w => (w, decide (w = widest))
  reducedWith (min excess (widest - next)) excess (widths.count widest) shared

/-- Reduces columns until they fit; the fuel exceeds what has to be taken off. -/
def fittedWith (width : Nat) : Nat → List Nat → List Nat
  | 0, widths => widths
  | fuel + 1, widths =>
    let excess := widths.foldl (· + ·) 0 - width
    if excess = 0 then widths else fittedWith width fuel (reduced excess widths)

/-- The widths of columns that fit into a width together. -/
def fitted (width : Nat) (widths : List Nat) : List Nat :=
  fittedWith width (widths.foldl (· + ·) 0 - width + 1) widths

end Swimlane.Report
