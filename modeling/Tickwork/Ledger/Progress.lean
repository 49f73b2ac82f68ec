import Tickwork.Graph.Basic

/-!
# Where a task stands

`Progress` is what is kept of a task between two ticks: its position, its context, its lifecycle and
the counters of its retries and loops.
-/

set_option autoImplicit false

namespace Tickwork

/-- The stages of a task's life. -/
inductive Lifecycle where
  | queued
  | running
  | feedback
  | done
  | blocked
  | failed
  deriving DecidableEq

namespace Lifecycle

def all : List Lifecycle := [.queued, .running, .feedback, .done, .blocked, .failed]

def name : Lifecycle → String
  | .queued => "queued"
  | .running => "running"
  | .feedback => "feedback"
  | .done => "done"
  | .blocked => "blocked"
  | .failed => "failed"

def ofName? (name : String) : Option Lifecycle :=
  all.find? fun l => l.name == name

def isTerminal : Lifecycle → Bool
  | .done | .blocked | .failed => true
  | _ => false

/-- The stages at which a worker may pick the task up. -/
def runnable : List Lifecycle := [.queued, .running]

/-- The stage that an end leads to. -/
def ofEnd : EndStatus → Lifecycle
  | .done => .done
  | .blocked => .blocked
  | .failed => .failed

end Lifecycle

/-- What the source of a task says about it. -/
structure TaskInfo where
  id : String
  title : Option String
  prompt : Option String
  context : Option String
  deriving DecidableEq

abbrev Counters := List (String × Int)

/-- The state of one task between ticks. The context holds the author's data only; the counters belong
to the engine. -/
structure Progress where
  taskId : String
  workflowId : String
  currentStateId : Option String
  context : Fields
  lifecycle : Lifecycle
  attempts : Counters
  loopIterations : Counters
  lastError : Option String
  terminalStateId : Option String
  waitingSince : Option Instant
  transitionCount : Int
  deriving DecidableEq

/-- A task that has just been registered. -/
def Progress.fresh (taskId workflowId : String) : Progress where
  taskId := taskId
  workflowId := workflowId
  currentStateId := none
  context := []
  lifecycle := .queued
  attempts := []
  loopIterations := []
  lastError := none
  terminalStateId := none
  waitingSince := none
  transitionCount := 0

end Tickwork
