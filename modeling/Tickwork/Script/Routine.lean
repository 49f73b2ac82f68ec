import Tickwork.Bundled.MagicEight
import Tickwork.Script.Eval

/-!
# Routines

A routine is a callable as this library can run it: a script, or a part of a bundled factory. Each
script has a site of its own, by which its calls are counted.
-/

set_option autoImplicit false

namespace Tickwork

variable {S W : Type}

inductive Routine (S : Type) where
  | script (site : Nat) (body : Expr S)
  | reviewDraft (part : ReviewDraft.Part)
  | magicEight (part : MagicEight.Part)

/-- What scripts need from the world: how often a site was called before, counting this call, and the
means to carry out a request. -/
structure Surroundings (S W : Type) where
  count : Nat → StateM W Nat
  perform : S → StateM W Unit

/-- How often each site was called. -/
abbrev Tally := List (Nat × Nat)

/-- The number of earlier calls of a site, and the tally with one call more. -/
def Tally.next (tally : Tally) (site : Nat) : Nat × Tally :=
  match tally with
  | [] => (0, [(site, 1)])
  | (k, n) :: rest =>
    if k = site then (n, (k, n + 1) :: rest)
    else
      let (m, rest) := Tally.next rest site
      (m, (k, n) :: rest)

namespace Routine

def runScript (around : Surroundings S W) (site : Nat) (body : Expr S) (call : Call) :
    StateM W Answer := do
  let calls ← around.count site
  let inputs := ("calls", .int calls) :: call.inputs
  fun world =>
    let (value, context, world) := (body.eval inputs around.perform).run.run (call.context, world)
    (⟨value, context⟩, world)

def behaviour (around : Surroundings S W) : Behaviour (Routine S) W := fun routine call =>
  match routine with
  | .script site body => runScript around site body call
  | .reviewDraft part => pure ⟨ReviewDraft.run part call, call.context⟩
  | .magicEight part => pure ⟨MagicEight.run part call, call.context⟩

end Routine

def bundled? (name : String) : Option (Except Fault (Graph (Routine S))) :=
  if name = ReviewDraft.id then some (ReviewDraft.definition Routine.reviewDraft).compile
  else if name = MagicEight.id then
    some ((MagicEight.definition Routine.magicEight).bind Definition.compile)
  else none

end Tickwork
