import Tickwork.Arrangement.Search

/-!
# Merging runs

Two neighbouring runs are made one. What is in place already at the outer ends stays there; the rest is
merged from the front if the left run is not the longer one, else from the back. Entries go out one by
one until one of the runs has won often enough in a row; then whole stretches go out at once, found by
leaps, as long as that pays. How often is enough is the patience, which grows and shrinks with
experience and is handed on from one merge to the next.
-/

set_option autoImplicit false

namespace Tickwork

variable {α ε : Type}

namespace Arrangement

/-- Two runs on the way to being one, seen from the end at which they are merged. -/
structure Merging (α : Type) where
  backward : Bool
  /-- What went out already, the last of it first. -/
  out : List α
  left : List α
  right : List α

namespace Merging

/-- The first entries of the left run go out. -/
def takeLeft (m : Merging α) (n : Nat) : Merging α :=
  { m with out := (m.left.take n).reverse ++ m.out, left := m.left.drop n }

/-- The first entries of the right run go out. -/
def takeRight (m : Merging α) (n : Nat) : Merging α :=
  { m with out := (m.right.take n).reverse ++ m.out, right := m.right.drop n }

def isNearlyDone : List α → Bool
  | [] | [_] => true
  | _ => false

/-- Whether it is plain how the rest goes out: the run that was merged into is used up, or the other one
has at most its last entry, which goes out last. -/
def isSettled (m : Merging α) : Bool :=
  if m.backward then m.left.isEmpty || isNearlyDone m.right
  else m.right.isEmpty || isNearlyDone m.left

/-- Everything in the order in which it goes out, when that is plain. -/
def finish (m : Merging α) : List α :=
  m.out.reverse ++ if m.backward then m.left ++ m.right else m.right ++ m.left

/-- Whether an entry of the right run goes out before one of the left run. -/
def rightGoes (m : Merging α) (below : α → α → Except ε Bool) (y x : α) : Except ε Bool :=
  (· != m.backward) <$> below y x

/-- Lets the entries of the left run go out that go before the next one of the right run. -/
def leapLeft (m : Merging α) (below : α → α → Except ε Bool) : Except ε (Nat × Merging α) :=
  match m.right with
  | [] => .ok (0, m)
  | y :: _ => do
    let n ← leading m.backward (fun x => (! ·) <$> m.rightGoes below y x) m.left
    .ok (n, m.takeLeft n)

/-- Lets the entries of the right run go out that go before the next one of the left run. -/
def leapRight (m : Merging α) (below : α → α → Except ε Bool) : Except ε (Nat × Merging α) :=
  match m.left with
  | [] => .ok (0, m)
  | x :: _ => do
    let n ← leading m.backward (fun y => m.rightGoes below y x) m.right
    .ok (n, m.takeRight n)

/-- How long a stretch must be for leaps to pay. -/
def payingLength : Nat := 7

/-- One round of leaps, which ends early if the rest is plain; tells whether leaps pay. -/
def leapRound (m : Merging α) (below : α → α → Except ε Bool) : Except ε (Bool × Merging α) := do
  let (lefts, m) ← m.leapLeft below
  if m.isSettled then .ok (false, m)
  else
    let m := m.takeRight 1
    if m.isSettled then .ok (false, m)
    else do
      let (rights, m) ← m.leapRight below
      if m.isSettled then .ok (false, m)
      else .ok (decide (payingLength ≤ lefts ∨ payingLength ≤ rights), m.takeLeft 1)

/-- How the entries go out: one by one, with the number of times that the left or the right run has won
in a row, or by leaps. -/
inductive Pace where
  | single (lefts rights : Nat)
  | leaps

/-- Merges to the end; gives the patience that is left, too. -/
def run (below : α → α → Except ε Bool) :
    Nat → Nat → Pace → Merging α → Except ε (Nat × List α)
  | 0, patience, _, m => .ok (patience, m.finish)
  | fuel + 1, patience, pace, m =>
    if m.isSettled then .ok (patience, m.finish)
    else
      match pace, m.left, m.right with
      | .leaps, _, _ => do
        let (pays, m) ← m.leapRound below
        if m.isSettled then .ok (patience, m.finish)
        else if pays then run below fuel (max 1 (patience - 1)) .leaps m
        else run below fuel (patience + 1) (.single 0 0) m
      | .single lefts rights, x :: _, y :: _ => do
        let (wins, m, pace) :=
          if ← m.rightGoes below y x then (rights + 1, m.takeRight 1, .single 0 (rights + 1))
          else (lefts + 1, m.takeLeft 1, Pace.single (lefts + 1) 0)
        run below fuel patience (if patience ≤ wins then .leaps else pace) m
      | _, _, _ => .ok (patience, m.finish)

end Merging

/-- Merges two runs, of which the right one starts with the least entry and the left one ends with the
greatest. -/
def merge (below : α → α → Except ε Bool) (patience : Nat) (left right : List α) :
    Except ε (Nat × List α) :=
  let fuel := left.length + right.length
  if left.length ≤ right.length then
    Merging.run below fuel patience (.single 0 0)
      (Merging.takeRight ⟨false, [], left, right⟩ 1)
  else do
    let (patience, merged) ← Merging.run below fuel patience (.single 0 0)
      (Merging.takeLeft ⟨true, [], left.reverse, right.reverse⟩ 1)
    .ok (patience, merged.reverse)

/-- Makes one run of two neighbouring ones. -/
def join (below : α → α → Except ε Bool) (patience : Nat) (left right : List α) :
    Except ε (Nat × List α) :=
  match right with
  | [] => .ok (patience, left)
  | y :: _ => do
    let n ← leading false (fun x => (! ·) <$> below y x) left
    match (left.drop n).getLast? with
    | none => .ok (patience, left ++ right)
    | some x => do
      let spare ← leading true (fun z => (! ·) <$> below z x) right.reverse
      let kept := right.length - spare
      let (patience, merged) ← merge below patience (left.drop n) (right.take kept)
      .ok (patience, left.take n ++ merged ++ right.drop kept)

end Arrangement

end Tickwork
