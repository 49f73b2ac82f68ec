/-!
# Searching in front

How many entries in front of a list pass a test, when those that pass it come first. A test may fail to
give an answer, so that which entries are tried, and in which order, is part of the meaning: first the
one in front, then entries farther and farther away, then those in between by halving.
-/

set_option autoImplicit false

namespace Tickwork

variable {α ε : Type}

namespace Arrangement

/-- Where the entries end that pass a test, between two places of a list. The middle is tried; of two
middle places it is the farther one, or the nearer one if the list is seen from its back. -/
def halve (backward : Bool) (test : α → Except ε Bool) (xs : List α) :
    Nat → Nat → Nat → Except ε Nat
  | 0, low, _ => .ok low
  | fuel + 1, low, high =>
    let half := (high - low) / 2
    let middle := if backward then high - 1 - half else low + half
    match if low < high then xs[middle]? else none with
    | none => .ok low
    | some x => do
      if ← test x then halve backward test xs fuel (middle + 1) high
      else halve backward test xs fuel low middle

/-- Tries entries that lie farther away each time, until one fails the test or the list ends: the place
that passed last, and the place that failed or the end. -/
def leap (test : α → Except ε Bool) (xs : List α) : Nat → Nat → Nat → Except ε (Nat × Nat)
  | 0, passed, _ => .ok (passed, xs.length)
  | fuel + 1, passed, next =>
    match xs[next]? with
    | none => .ok (passed, xs.length)
    | some x => do
      if ← test x then leap test xs fuel next (2 * next + 1) else .ok (passed, next)

/-- How many entries in front pass a test. -/
def leading (backward : Bool) (test : α → Except ε Bool) (xs : List α) : Except ε Nat :=
  match xs with
  | [] => .ok 0
  | x :: _ => do
    if ← test x then
      let (passed, failed) ← leap test xs xs.length 0 1
      halve backward test xs xs.length (passed + 1) failed
    else .ok 0

end Arrangement

end Tickwork
