import Tickwork.Engine.Host
import Tickwork.Script.Routine
import Tickwork.Tables.Basic

/-!
# Requests

What may be asked of a shop, the place where tasks are kept and worked on, and what it answers: the
operations on the tables, the work of its runners, and the notices that a runner gives on the way.
-/

set_option autoImplicit false

namespace Tickwork

/-! ## Runners -/

/-- Whether a runner needs the lease of a task to advance it. -/
inductive LeaseMode where
  | strict
  | bestEffort
  deriving DecidableEq

namespace LeaseMode

def name : LeaseMode → String
  | .strict => "strict"
  | .bestEffort => "best_effort"

def ofName? (name : String) : Option LeaseMode :=
  [LeaseMode.strict, .bestEffort].find? fun m => m.name == name

end LeaseMode

/-- How a runner works. -/
structure Runner where
  workerId : String
  leaseMode : LeaseMode
  leaseSpan : Instant.Seconds
  budget : Budget
  verifyReplay : Bool
  deriving DecidableEq

/-! ## Notices -/

/-- What a runner tells the source of a task. -/
inductive Notice where
  | lifecycle (taskId : String) (previous current : Lifecycle) (message : Option String)
  | feedback (taskId : String) (prompt : Option String)
  /-- A page, with what it is called in a sentence. -/
  | page (taskId : String) (title markdown name : Value)
  deriving DecidableEq

namespace Notice

def line : Notice → String
  | .lifecycle taskId previous current message =>
    let change := s!"Task {taskId}: {previous.name} -> {current.name}"
    match firstNonempty [message] with
    | some words => s!"{change} ({words})"
    | none => change
  | .feedback taskId prompt =>
    let words := (firstNonempty [prompt]).getD "(no prompt)"
    s!"Task {taskId} needs feedback: {words}"
  | .page taskId _ markdown name =>
    let size := ((markdown.items?).getD []).length
    s!"Task {taskId} published page {name.detailed} ({size} chars)"

end Notice

/-- What becomes of notices: they are kept as they are, or written as lines. -/
inductive Relay where
  | kept
  | logged
  deriving DecidableEq

/-! ## Requests and answers -/

/-- What may be asked of a shop. A runner that is not named is the first one. -/
inductive Request where
  | create (draft : TaskDraft)
  | get (taskId : String)
  | list (lifecycle : Option Lifecycle) (workflowId : Option String) (limit : Int)
  | runnable (limit : Option Int)
  | load (taskId : String)
  | checkpoint (taskId : String) (columns : Columns) (owner : Option String)
  /-- Adds a ledger row, of which a column may be missing, together with a write of progress. -/
  | record (row : Transition) (missing : Option String) (taskId : String) (columns : Columns)
      (owner : Option String)
  | rows (taskId : String)
  | reply (taskId text : String)
  | acquire (taskId owner : String) (span : Instant.Seconds)
  | renew (taskId owner : String) (span : Instant.Seconds)
  | release (taskId owner : String)
  | startRun (taskId : String)
  | finishRun (runId : String) (status : RunStatus)
  | runStatus (runId : String)
  /-- Moves the clock by microseconds. -/
  | clock (micros : Int)
  | tick (runner : Option String) (taskId : String) (feedback : Option String)
  | runOnce (runner : Option String)
  | runLoop (runner : Option String) (maxTicks : Option Int) (maxIdlePolls : Int)
  | verify (runner : Option String) (taskId : String)
  /-- Stops the loop that is running, if there is one. -/
  | signal (name : String)
  /-- A request that cannot be understood. -/
  | malformed (fault : Fault)

/-- Callables in a shop: scripts may make requests of the shop. -/
abbrev Code := Routine Request

/-- The outcome of one tick of a runner. -/
structure TickReport where
  taskId : String
  ending : Option Ending
  transitions : Nat
  message : Option String
  skipped : Bool
  deriving DecidableEq

/-- What a runner has done, counted. -/
structure Summary where
  processed : Nat
  done : Nat
  blocked : Nat
  failed : Nat
  feedback : Nat
  paused : Nat
  skipped : Nat
  idlePolls : Nat
  deriving DecidableEq

namespace Summary

def zero : Summary := ⟨0, 0, 0, 0, 0, 0, 0, 0⟩

def add (a b : Summary) : Summary :=
  ⟨a.processed + b.processed, a.done + b.done, a.blocked + b.blocked, a.failed + b.failed,
    a.feedback + b.feedback, a.paused + b.paused, a.skipped + b.skipped,
    a.idlePolls + b.idlePolls⟩

/-- One task more that was left alone. -/
def skip (s : Summary) : Summary :=
  { s with skipped := s.skipped + 1 }

/-- One tick more. -/
def count (s : Summary) (report : TickReport) : Summary :=
  match report.skipped, report.ending with
  | true, _ | _, none => s.skip
  | false, some ending =>
    let s := { s with processed := s.processed + 1 }
    match ending with
    | .done => { s with done := s.done + 1 }
    | .blocked => { s with blocked := s.blocked + 1 }
    | .failed => { s with failed := s.failed + 1 }
    | .feedback => { s with feedback := s.feedback + 1 }
    | .budgetExhausted => { s with paused := s.paused + 1 }

end Summary

/-- What a shop answers. -/
inductive Response where
  | nothing
  | task (view : Option TaskView)
  | tasks (views : List TaskView)
  | ids (taskIds : List String)
  | progress (p : Progress)
  | landed (yes : Bool)
  | rows (rows : List Transition)
  | run (runId : String)
  | runStatus (status : Option RunStatus)
  | time (now : Instant)
  | report (report : TickReport)
  | summary (summary : Summary)
  /-- The work of a loop, and the signal that stopped the runner, if one has. -/
  | loop (summary : Summary) (signal : Option String)
  | final (stateId : Option String)

end Tickwork
