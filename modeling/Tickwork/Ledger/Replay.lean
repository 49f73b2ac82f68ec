import Tickwork.Ledger.Transition
import Tickwork.Ledger.Progress

/-!
# Replay

`replay` walks the rows of a task's ledger and tells where they end; each row must start where the one
before it ended, except right after a pause, where the task goes on at its resume target. `verify`
compares that end with where the task stands.
-/

set_option autoImplicit false

namespace Tickwork

variable {F : Type}

namespace Replay

/-- Whether a row may start elsewhere because the row before it led into a pause. -/
def afterPause (feedbackIds : List String) : Option Transition → Bool
  | none => false
  | some previous =>
    decide (previous.reason = .known .actionFeedback) || feedbackIds.contains previous.toId

/-- Walks rows from a position; `previous` is the row that led there. -/
def walk (feedbackIds : List String) :
    String → Option Transition → List Transition → Except Fault String
  | current, _, [] => .ok current
  | current, previous, t :: rest => do
    t.check
    if t.fromId ≠ current ∧ afterPause feedbackIds previous = false then
      .error (.replay (.discontinuity t.eventId current t.fromId))
    else walk feedbackIds t.toId (some t) rest

end Replay

/-- The state that a ledger ends in; `none` for an empty ledger. -/
def replay (feedbackIds : List String) : List Transition → Except Fault (Option String)
  | [] => .ok none
  | t :: rest => do
    let final ← Replay.walk feedbackIds t.fromId none (t :: rest)
    .ok (some final)

def lastSource (rows : List Transition) : Option String :=
  rows.getLast?.map Transition.fromId

/-- Compares the end of a ledger with where the task stands. -/
def Graph.matchesProgress (g : Graph F) (rows : List Transition) (final : String) (p : Progress) :
    Except Fault Unit := do
  let paused := g.feedbackIds.contains final
  if p.lifecycle = .feedback ∧ paused = false then
    .error (.replay (.notAwaiting p.taskId final))
  else if paused = true ∧ p.terminalStateId = none then do
    let expected ← g.resumeTarget final (lastSource rows)
    if p.currentStateId = some expected then .ok ()
    else .error (.replay (.resumesElsewhere p.taskId p.currentStateId expected))
  else
    let stored := match p.terminalStateId with
      | some id => some id
      | none => p.currentStateId
    if stored = some final then .ok ()
    else .error (.replay (.endsElsewhere final p.taskId stored))

/-- Checks that a ledger leads to where the task stands, and gives its end. -/
def Graph.verify (g : Graph F) (rows : List Transition) (p : Progress) :
    Except Fault (Option String) := do
  match ← replay g.feedbackIds rows with
  | none => .ok none
  | some final => do
    g.matchesProgress rows final p
    .ok (some final)

end Tickwork
