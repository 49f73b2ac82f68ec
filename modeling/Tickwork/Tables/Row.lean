import Tickwork.Ledger.Transition
import Tickwork.Ledger.Progress
import Tickwork.Value.Number
import Tickwork.Value.Written

/-!
# Rows

What the tables hold: tasks, runs and ledger rows. The context and the counters of a task are columns
of documents: a write makes the values that it is given documents, and reading the task asks for
mappings.
-/

set_option autoImplicit false

namespace Tickwork

/-- A claim of one worker on a task until an instant. -/
structure Lease where
  owner : String
  expiresAt : Instant
  deriving DecidableEq

/-- What a write of progress sets. -/
structure Columns where
  currentStateId : Option String
  terminalStateId : Option String
  context : Value
  lifecycle : Lifecycle
  attempts : Value
  loopIterations : Value
  lastError : Option String
  waitingSince : Option Instant
  transitionCount : Int
  deriving DecidableEq

/-- What registers a task. Nothing can be registered without a factory. -/
structure TaskDraft where
  workflowId : Option String
  taskId : Option String
  externalId : Option String
  title : Option String
  prompt : Option String
  contextText : Option String
  context : Value
  deriving DecidableEq

structure TaskRow where
  taskId : String
  workflowId : String
  externalId : Option String
  title : Option String
  prompt : Option String
  contextText : Option String
  columns : Columns
  activeRunId : Option String
  lease : Option Lease
  createdAt : Instant
  updatedAt : Instant
  deriving DecidableEq

/-- How a run stands. -/
inductive RunStatus where
  | running
  | feedback
  | done
  | blocked
  | failed
  deriving DecidableEq

namespace RunStatus

def name : RunStatus → String
  | .running => "running"
  | .feedback => "feedback"
  | .done => "done"
  | .blocked => "blocked"
  | .failed => "failed"

def ofName? (name : String) : Option RunStatus :=
  [RunStatus.running, .feedback, .done, .blocked, .failed].find? fun s => s.name == name

/-- Whether the status closes a run. -/
def isEnd : RunStatus → Bool
  | .done | .blocked | .failed => true
  | _ => false

end RunStatus

/-- A run: the ticks of a task from its start, or from the end of the run before, to its end. -/
structure RunRow where
  runId : String
  taskId : String
  status : RunStatus
  ended : Bool
  deriving DecidableEq

/-! ## Columns and progress -/

/-- Whether a whole number fits a column, which holds sixty-four bits. -/
def fitsColumn (n : Int) : Bool :=
  decide (-9223372036854775808 ≤ n) && decide (n ≤ 9223372036854775807)

namespace Columns

/-- The columns of a task that has just been registered. -/
def fresh (context : Value) : Columns where
  currentStateId := none
  terminalStateId := none
  context := context
  lifecycle := .queued
  attempts := .dict []
  loopIterations := .dict []
  lastError := none
  waitingSince := none
  transitionCount := 0

/-- A value as a column keeps it: as a document, to be read back. -/
def document (v : Value) : Except Fault Value :=
  (v.toDocument.map Value.readBack).mapError Fault.unwritable

/-- The columns as the tables keep them. Fails with the first value that is no document, or if the
count does not fit. -/
def stored (c : Columns) : Except Fault Columns := do
  let context ← document c.context
  let attempts ← document c.attempts
  let loopIterations ← document c.loopIterations
  if fitsColumn c.transitionCount then .ok { c with context, attempts, loopIterations }
  else .error .countTooLarge

end Columns

def Counters.toValue (counters : Counters) : Value :=
  .dict (counters.map fun entry => (.text entry.1, .int entry.2))

def Progress.columns (p : Progress) : Columns where
  currentStateId := p.currentStateId
  terminalStateId := p.terminalStateId
  context := .dict p.context
  lifecycle := p.lifecycle
  attempts := p.attempts.toValue
  loopIterations := p.loopIterations.toValue
  lastError := p.lastError
  waitingSince := p.waitingSince
  transitionCount := p.transitionCount

/-- A column that has to be a mapping. -/
def mappingColumn (v : Value) : Except Fault Fields :=
  match v with
  | .dict fields => .ok fields
  | _ => .error .notADocument

def readCounters : List (String × Value) → Except Fault Counters
  | [] => .ok []
  | (name, v) :: rest => do
    let n ← v.toInt.mapError Fault.ofRaised
    let counters ← readCounters rest
    .ok ((name, n) :: counters)

def counterColumn (v : Value) : Except Fault Counters := do
  let fields ← mappingColumn v
  readCounters (Fields.named fields)

/-- A task as it can be read. -/
structure TaskView where
  row : TaskRow
  context : Fields

namespace TaskRow

def view (row : TaskRow) : Except Fault TaskView := do
  let context ← mappingColumn row.columns.context
  .ok ⟨row, context⟩

def progress (row : TaskRow) : Except Fault Progress := do
  let c := row.columns
  let context ← mappingColumn c.context
  let attempts ← counterColumn c.attempts
  let loopIterations ← counterColumn c.loopIterations
  .ok
    { taskId := row.taskId
      workflowId := row.workflowId
      currentStateId := c.currentStateId
      context
      lifecycle := c.lifecycle
      attempts
      loopIterations
      lastError := c.lastError
      terminalStateId := c.terminalStateId
      waitingSince := c.waitingSince
      transitionCount := c.transitionCount }

/-- What the callables are told about a task. An id of the task's source goes before its own. -/
def info (row : TaskRow) : TaskInfo where
  id := match row.externalId with
    | some id => if id = "" then row.taskId else id
    | none => row.taskId
  title := row.title
  prompt := row.prompt
  context := row.contextText

end TaskRow

end Tickwork
