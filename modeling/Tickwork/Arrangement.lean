import Tickwork.Arrangement.Merge
import Tickwork.Arrangement.Run

/-!
# Arranging entries

Puts entries in order by a comparison that may fail. If one comparison fails the whole arrangement does,
with the failure that came first, so that which comparisons are made matters. The entries are cut into
runs, and neighbouring runs are joined in the order of their powers, which tell how deep the border
between two runs lies in the tree of all halves: deep borders are closed first.
-/

set_option autoImplicit false

namespace Tickwork

variable {α ε : Type}

namespace Arrangement

/-- How often two places have to be doubled until a border between stretches of length `n` lies between
them. -/
def power (n : Nat) : Nat → Nat → Nat → Nat
  | 0, _, _ => 0
  | fuel + 1, a, b => if a / n = b / n then power n fuel (2 * a) (2 * b) + 1 else 1

/-- Runs that wait for their right neighbour, the last one first, each with the power of the border on
its right. -/
abbrev Waiting (α : Type) := List (List α × Nat)

/-- Joins a run with those before it whose borders lie deeper than a power. -/
def collapse (below : α → α → Except ε Bool) (border : Nat) :
    Nat → Waiting α → List α → Except ε (Nat × Waiting α × List α)
  | patience, [], last => .ok (patience, [], last)
  | patience, (run, depth) :: rest, last =>
    if border < depth then do
      let (patience, joined) ← join below patience run last
      collapse below border patience rest joined
    else .ok (patience, (run, depth) :: rest, last)

/-- The power of the border between two runs that start at a place, among `total` entries. -/
def borderPower (total start : Nat) (left right : List α) : Nat :=
  let middle := 2 * start + left.length
  power total total middle (middle + left.length + right.length)

/-- Cuts entries into runs and joins those whose turn it is; the runs that are left, last one first. -/
def gather (below : α → α → Except ε Bool) (total least : Nat) :
    Nat → Nat → Waiting α → List α → List α → Except ε (Nat × List (List α))
  | 0, patience, waiting, last, entries =>
    .ok (patience, entries :: last :: waiting.map Prod.fst)
  | _ + 1, patience, waiting, last, [] => .ok (patience, last :: waiting.map Prod.fst)
  | fuel + 1, patience, waiting, last, x :: rest => do
    let (run, rest) ← nextRun below least (x :: rest)
    let start := (waiting.flatMap Prod.fst).length
    let border := borderPower total start last run
    let (patience, waiting, last) ← collapse below border patience waiting last
    gather below total least fuel patience ((last, border) :: waiting) run rest

/-- Joins runs, the last one first, until one is left: the last two, or the two before the last if that
is longer than the third. -/
def joinAll (below : α → α → Except ε Bool) :
    Nat → Nat → List (List α) → Except ε (List α)
  | fuel + 1, patience, last :: run :: first :: rest =>
    if first.length < last.length then do
      let (patience, joined) ← join below patience first run
      joinAll below fuel patience (last :: joined :: rest)
    else do
      let (patience, joined) ← join below patience run last
      joinAll below fuel patience (joined :: first :: rest)
  | _, patience, [last, run] => Prod.snd <$> join below patience run last
  | _, _, runs => .ok runs.reverse.flatten

/-- The patience at the start. -/
def startingPatience : Nat := 7

end Arrangement

open Arrangement in
/-- The entries in order, or the failure of the first comparison that fails. -/
def arranged (below : α → α → Except ε Bool) (entries : List α) : Except ε (List α) := do
  let total := entries.length
  let least := leastLength total false total
  let (first, rest) ← nextRun below least entries
  let (patience, runs) ← gather below total least total startingPatience [] first rest
  joinAll below runs.length patience runs

end Tickwork
