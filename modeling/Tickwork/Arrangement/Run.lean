import Tickwork.Arrangement.Search

/-!
# Runs

A run is a stretch of entries in order. The next run of some entries is the stretch in front that is in
order already, or the one turned round that is strictly against it; a run that is too short takes in
the entries after it, each put in its place by halving.
-/

set_option autoImplicit false

namespace Tickwork

variable {α ε : Type}

namespace Arrangement

/-- How many further entries go on in the direction of the first two. -/
def runLength (below : α → α → Except ε Bool) (falling : Bool) : α → List α → Except ε Nat
  | _, [] => .ok 0
  | last, x :: rest => do
    if (← below x last) = falling then
      let n ← runLength below falling x rest
      .ok (n + 1)
    else .ok 0

/-- The entries in front that are in order or strictly against it, put in order, and the others. -/
def frontRun (below : α → α → Except ε Bool) : List α → Except ε (List α × List α)
  | x :: y :: rest => do
    let falling ← below y x
    let n ← runLength below falling y rest
    let front := x :: y :: rest.take n
    .ok (if falling then front.reverse else front, rest.drop n)
  | short => .ok (short, [])

/-- Puts entries in their places in a run, one after the other, each behind those that it is not
below. -/
def insertAll (below : α → α → Except ε Bool) : List α → List α → Except ε (List α)
  | run, [] => .ok run
  | run, x :: rest => do
    let n ← halve false (fun y => (! ·) <$> below x y) run run.length 0 run.length
    insertAll below (run.take n ++ x :: run.drop n) rest

/-- The next run, of a least length as far as there are entries, and the others. -/
def nextRun (below : α → α → Except ε Bool) (least : Nat) (entries : List α) :
    Except ε (List α × List α) := do
  let (front, rest) ← frontRun below entries
  let missing := least - front.length
  let run ← insertAll below front (rest.take missing)
  .ok (run, rest.drop missing)

/-- The least length of the runs of `n` entries: `n` halved until it is small, and one more if one of
the halves was not even. -/
def leastLength : Nat → Bool → Nat → Nat
  | 0, _, n => n
  | fuel + 1, uneven, n =>
    if n < 64 then if uneven then n + 1 else n
    else leastLength fuel (uneven || n % 2 == 1) (n / 2)

end Arrangement

end Tickwork
