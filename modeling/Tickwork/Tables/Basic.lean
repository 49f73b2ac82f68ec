import Tickwork.Definition.Compile
import Tickwork.Tables.Row

/-!
# Tables

The tables of a task store and the operations on them. A write that depends on a condition lands only
if a row meets it, and tells by `none` that it did not: a write of progress under a lease, a reply to a
paused task, a claim on a task. Nothing is changed by a write that fails.
-/

set_option autoImplicit false

namespace Tickwork

structure Tables where
  tasks : List TaskRow
  runs : List RunRow
  rows : List Transition
  deriving DecidableEq

namespace Tables

def empty : Tables := ⟨[], [], []⟩

def task? (t : Tables) (taskId : String) : Option TaskRow :=
  t.tasks.find? fun row => row.taskId == taskId

def run? (t : Tables) (runId : String) : Option RunRow :=
  t.runs.find? fun row => row.runId == runId

def getTask (t : Tables) (taskId : String) : Except Fault TaskRow :=
  match t.task? taskId with
  | some row => .ok row
  | none => .error (.taskNotFound taskId)

def setTask (t : Tables) (row : TaskRow) : Tables :=
  { t with tasks := t.tasks.map fun old => if old.taskId = row.taskId then row else old }

def setRun (t : Tables) (row : RunRow) : Tables :=
  { t with runs := t.runs.map fun old => if old.runId = row.runId then row else old }

/-- Changes the row of a task if it is there and meets a condition. -/
def updateIf (t : Tables) (taskId : String) (condition : TaskRow → Bool)
    (change : TaskRow → TaskRow) : Option Tables :=
  match t.task? taskId with
  | some row => if condition row then some (t.setTask (change row)) else none
  | none => none

/-! ## Tasks -/

/-- Adds a task of a factory under an id that is not taken. -/
def create (t : Tables) (now : Instant) (taskId : String) (draft : TaskDraft) :
    Except Fault Tables := do
  let context ← Columns.document draft.context
  match draft.workflowId with
  | none => .error (.missingColumn "factory_tasks.workflow_id")
  | some workflowId =>
    if (t.task? taskId).isSome then .error (.notUnique "factory_tasks.task_id")
    else
      let row : TaskRow :=
        { taskId, workflowId, externalId := draft.externalId, title := draft.title,
          prompt := draft.prompt, contextText := draft.contextText, columns := .fresh context,
          activeRunId := none, lease := none, createdAt := now, updatedAt := now }
      .ok { t with tasks := t.tasks ++ [row] }

/-- The first entries of a list up to a limit; a limit below zero is none. -/
def upTo {α : Type} (limit : Int) (entries : List α) : List α :=
  if limit < 0 then entries else entries.take limit.toNat

/-- Fails if a limit does not fit a column. -/
def ensureLimit (limit : Int) : Except Fault Unit :=
  if fitsColumn limit then .ok () else .error .countTooLarge

/-- The tasks at a stage, the one that was changed first in front. -/
def atStage (t : Tables) (lifecycle : Lifecycle) : List TaskRow :=
  (t.tasks.filter fun row => row.columns.lifecycle == lifecycle).mergeSort fun a b =>
    decide (a.updatedAt ≤ b.updatedAt)

/-- The tasks at a stage and of a factory, if these are given, oldest first. At one stage the change
decides between tasks that are equally old. -/
def listTasks (t : Tables) (lifecycle : Option Lifecycle) (workflowId : Option String)
    (limit : Int) : List TaskRow :=
  let chosen := (lifecycle.elim t.tasks t.atStage).filter fun row =>
    workflowId.all (· == row.workflowId)
  upTo limit (chosen.mergeSort fun a b => decide (a.createdAt ≤ b.createdAt))

/-- Whether a task was changed before another one, or at the same instant and created before it. -/
def changedBefore (a b : TaskRow) : Bool :=
  decide (a.updatedAt < b.updatedAt ∨ a.updatedAt = b.updatedAt ∧ a.createdAt ≤ b.createdAt)

/-- The tasks that a worker may pick up, the one that has waited longest first; of those that have
waited equally long, the ones that were not begun come first. -/
def runnable (t : Tables) (limit : Option Int) : List String :=
  let chosen := Lifecycle.runnable.flatMap t.atStage
  upTo (limit.getD (-1)) ((chosen.mergeSort changedBefore).map TaskRow.taskId)

/-! ## Progress -/

/-- Whether a task may be written under a lease; without an owner it may always be. -/
def heldBy (owner : Option String) (row : TaskRow) : Bool :=
  match owner with
  | none => true
  | some owner => row.lease.any fun lease => lease.owner == owner

def checkpoint (t : Tables) (now : Instant) (taskId : String) (columns : Columns)
    (owner : Option String) : Except Fault (Option Tables) := do
  let columns ← columns.stored
  .ok (t.updateIf taskId (heldBy owner) fun row => { row with columns, updatedAt := now })

/-- Adds a row to the ledger. Its counters must fit, no column may be missing, its id must be new, and
its run and its task must exist. -/
def addRow (t : Tables) (row : Transition) (missing : Option String) : Except Fault Tables :=
  match row.reason with
  | .unknown shown => .error (.notAMember shown "ReasonCode")
  | .known _ =>
    if !(fitsColumn row.attempt && fitsColumn row.loopIteration) then .error .countTooLarge
    else
      match missing with
      | some column => .error (.missingColumn s!"transition_events.{column}")
      | none =>
        if t.rows.any fun old => old.eventId == row.eventId then
          .error (.notUnique "transition_events.event_id")
        else if (t.run? row.runId).isNone || (t.task? row.taskId).isNone then .error .noSuchRow
        else .ok { t with rows := t.rows ++ [row] }

/-- Writes the progress of a task and adds a row to the ledger, or does neither. The first column that
the row leaves out is named if there is one. -/
def record (t : Tables) (now : Instant) (row : Transition) (missing : Option String)
    (taskId : String) (columns : Columns) (owner : Option String) :
    Except Fault (Option Tables) := do
  match ← t.checkpoint now taskId columns owner with
  | none => .ok none
  | some t => do
    let t ← t.addRow row missing
    .ok (some t)

def rowsFor (t : Tables) (taskId : String) : List Transition :=
  t.rows.filter fun row => row.taskId == taskId

/-! ## Replies -/

/-- Gives a reply to a paused task, if its context is still the one that was seen; `context` is that
context with the reply in it. -/
def applyReply (t : Tables) (now : Instant) (taskId : String) (seen : Fields) (context : Value) :
    Option Tables :=
  t.updateIf taskId
    (fun row =>
      decide (row.columns.lifecycle = .feedback) && decide (row.columns.context = .dict seen))
    fun row =>
      { row with
        columns := { row.columns with context, lifecycle := .running, waitingSince := none }
        updatedAt := now }

/-- Gives a reply to a task that waits for one. -/
def submitReply (t : Tables) (now : Instant) (taskId reply : String) :
    Except Fault (Option Tables) := do
  let row ← t.getTask taskId
  let seen ← mappingColumn row.columns.context
  let context ← Columns.document (.dict (Fields.put replyKey (.str reply) seen))
  .ok (t.applyReply now taskId seen context)

/-! ## Leases -/

/-- Whether a worker may take a task: nobody has it, the worker has it already, or the claim on it ran
out. -/
def isFree (now : Instant) (owner : String) (row : TaskRow) : Bool :=
  match row.lease with
  | none => true
  | some lease => lease.owner == owner || decide (lease.expiresAt < now)

/-- The end of a claim that starts now. -/
def expiry (now : Instant) (span : Instant.Seconds) : Except Fault Instant :=
  (now.after span).mapError Fault.span

/-- Takes a task for a span of time, if it is free. -/
def acquire (t : Tables) (now : Instant) (taskId owner : String) (span : Instant.Seconds) :
    Except Fault (Option Tables) := do
  let expiresAt ← expiry now span
  .ok (t.updateIf taskId (isFree now owner) fun row =>
    { row with lease := some ⟨owner, expiresAt⟩ })

/-- Extends a claim for a span of time, if the worker still has it. -/
def renew (t : Tables) (now : Instant) (taskId owner : String) (span : Instant.Seconds) :
    Except Fault (Option Tables) := do
  let expiresAt ← expiry now span
  .ok (t.updateIf taskId (heldBy (some owner)) fun row =>
    { row with lease := some ⟨owner, expiresAt⟩ })

/-- Gives a task back, if the worker has it. -/
def release (t : Tables) (taskId owner : String) : Tables :=
  (t.updateIf taskId (heldBy (some owner)) fun row => { row with lease := none }).getD t

/-! ## Runs -/

def activeRun? (t : Tables) (task : TaskRow) : Option RunRow :=
  (task.activeRunId.bind t.run?).filter fun run => !run.ended

/-- Notes that an open run goes on. -/
def continueRun (t : Tables) (run : RunRow) : Tables :=
  t.setRun { run with status := .running }

def openRun (t : Tables) (now : Instant) (task : TaskRow) (runId : String) : Tables :=
  let run : RunRow := ⟨runId, task.taskId, .running, false⟩
  Tables.setTask { t with runs := t.runs ++ [run] }
    { task with activeRunId := some runId, updatedAt := now }

/-- Notes how a run stands; an end closes it for good. -/
def finishRun (t : Tables) (runId : String) (status : RunStatus) : Except Fault Tables :=
  match t.run? runId with
  | some run => .ok (t.setRun { run with status, ended := run.ended || status.isEnd })
  | none => .error (.runNotFound runId)

end Tables

end Tickwork
