import Tickwork.Fault

/-!
# Ledger rows

A row of the ledger records one transition of a task, or one failed attempt that stays where it is,
together with the reason for it. `Transition.check` says what a row must satisfy: its states are
named, its reason is one of the known ones and fits its event, an attempt does not move and counters
are not negative.
-/

set_option autoImplicit false

namespace Tickwork

/-- Why a row was recorded. -/
inductive Reason where
  | actionDone
  | actionFeedback
  | actionExhausted
  | attemptFailed
  | attemptError
  | orchestrateHandler
  | orchestrateSelect
  | loopContinue
  | loopDone
  | loopExhausted
  deriving DecidableEq

namespace Reason

def all : List Reason :=
  [.actionDone, .actionFeedback, .actionExhausted, .attemptFailed, .attemptError,
    .orchestrateHandler, .orchestrateSelect, .loopContinue, .loopDone, .loopExhausted]

def code : Reason → String
  | .actionDone => "action.done"
  | .actionFeedback => "action.feedback"
  | .actionExhausted => "action.failed.exhausted"
  | .attemptFailed => "action.attempt.failed"
  | .attemptError => "action.attempt.error"
  | .orchestrateHandler => "orchestrate.handler"
  | .orchestrateSelect => "orchestrate.select"
  | .loopContinue => "loop.continue"
  | .loopDone => "loop.done"
  | .loopExhausted => "loop.exhausted"

def ofCode? (code : String) : Option Reason :=
  all.find? fun r => r.code == code

def isAttempt : Reason → Bool
  | .attemptFailed | .attemptError => true
  | _ => false

/-- The event that a reason goes with, if it goes with one only. -/
def requiredEvent? : Reason → Option String
  | .actionDone => some "done"
  | .actionFeedback => some "feedback"
  | .actionExhausted | .attemptFailed | .attemptError => some "failed"
  | .loopContinue => some "continue"
  | .loopDone => some "done"
  | .loopExhausted => some "exhausted"
  | .orchestrateHandler | .orchestrateSelect => none

end Reason

/-- What stands in the reason column of a row: a reason, or something else as a message shows it. -/
inductive ReasonTag where
  | known (reason : Reason)
  | unknown (shown : String)
  deriving DecidableEq

namespace ReasonTag

/-- The tag for a value found in the column. -/
def ofValue (v : Value) : ReasonTag :=
  match v with
  | .str code =>
    match Reason.ofCode? code with
    | some reason => .known reason
    | none => .unknown v.detailed
  | _ => .unknown v.detailed

def text : ReasonTag → String
  | .known reason => reason.code
  | .unknown shown => shown

end ReasonTag

/-- One row of the ledger. -/
structure Transition where
  eventId : String
  runId : String
  tickId : String
  taskId : String
  fromId : String
  toId : String
  event : String
  reason : ReasonTag
  attempt : Int
  loopIteration : Int
  time : Instant
  deriving DecidableEq

namespace Transition

/-- What a row with a known reason gets wrong. -/
def checkReason (t : Transition) (reason : Reason) : Except Fault Unit :=
  if (reason.requiredEvent?.getD t.event) ≠ t.event then
    .error (.transition (.wrongEvent reason.code (reason.requiredEvent?.getD "") t.event))
  else if reason.isAttempt ∧ t.fromId ≠ t.toId then
    .error (.transition (.attemptMoved t.eventId t.fromId))
  else if t.attempt < 0 ∨ t.loopIteration < 0 then
    .error (.transition (.negativeCounters t.eventId))
  else .ok ()

/-- Fails with the first thing that a row gets wrong. -/
def check (t : Transition) : Except Fault Unit :=
  if t.fromId = "" ∨ t.toId = "" then .error (.transition (.emptyState t.eventId))
  else
    match t.reason with
    | .unknown shown => .error (.transition (.unknownReason t.eventId shown))
    | .known reason => t.checkReason reason

end Transition

end Tickwork
