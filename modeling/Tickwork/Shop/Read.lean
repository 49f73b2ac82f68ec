import Tickwork.Script.Source
import Tickwork.Shop.Serve

/-!
# Requests as documents

Requests, ledger rows and progress can be written as documents. Instants are counted in milliseconds
from a fixed one. A word that names no stage, status or mode makes the request malformed.
-/

set_option autoImplicit false

namespace Tickwork

namespace Instant

/-- The instant from which documents count: nine o'clock on 2026-10-18, UTC. -/
def reference : Instant :=
  ⟨daysOfDate 2026 10 18 * dayMicros + 9 * 3600 * 1000000⟩

/-- The instant a number of milliseconds after the one of reference. -/
def ofMillis (ms : Int) : Instant :=
  ⟨reference.micros + ms * 1000⟩

/-- The milliseconds since the instant of reference. -/
def toMillis (t : Instant) : Int :=
  (t.micros - reference.micros).fdiv 1000

end Instant

namespace Value

/-- A stage under a name; `queued` when there is none. -/
def lifecycleOr (v : Value) (name : String) : Except Fault Lifecycle :=
  if v.has name then
    match (v.text? name).bind Lifecycle.ofName? with
    | some l => .ok l
    | none => .error (.notAMember (v.get name).detailed "LifecycleStatus")
  else .ok .queued

def instant? (v : Value) (name : String) : Option Instant :=
  (v.int? name).map Instant.ofMillis

/-- A mapping under a name as it stands; the empty one when there is none. -/
def documentAt (v : Value) (name : String) : Value :=
  if v.has name then v.get name else .dict []

def toSeconds : Value → Instant.Seconds
  | .int n => .whole n
  | .bool b => .whole (if b then 1 else 0)
  | .float x => .real x
  | v => .other v.typeName

def secondsAt (v : Value) (name : String) (fallback : Value) : Instant.Seconds :=
  (if v.has name then v.get name else fallback).toSeconds

def toColumns (v : Value) : Except Fault Columns := do
  let lifecycle ← v.lifecycleOr "lifecycle"
  .ok
    { currentStateId := v.text? "current_state_id"
      terminalStateId := v.text? "terminal_state_id"
      context := v.documentAt "context"
      lifecycle
      attempts := v.documentAt "attempts"
      loopIterations := v.documentAt "loop_iterations"
      lastError := v.text? "last_error"
      waitingSince := v.instant? "waiting_since"
      transitionCount := v.intOr "transition_count" 0 }

def taskIdOf (v : Value) : String :=
  v.textOr "task_id" "task-1"

/-- Counters out of a mapping, without what is no number. -/
def toCounters (v : Value) : Counters :=
  Sorted.ofPairs ((v.asMapping?.getD []).filterMap fun
    | (.text name, .int n) => some (name, n)
    | _ => none)

def toProgress (v : Value) (workflowId : String) : Except Fault Progress := do
  let c ← v.toColumns
  .ok
    { taskId := v.taskIdOf
      workflowId := v.textOr "workflow_id" workflowId
      currentStateId := c.currentStateId
      context := c.context.asMapping?.getD []
      lifecycle := c.lifecycle
      attempts := c.attempts.toCounters
      loopIterations := c.loopIterations.toCounters
      lastError := c.lastError
      terminalStateId := c.terminalStateId
      waitingSince := c.waitingSince
      transitionCount := c.transitionCount }

/-- What stands under a name as part of a sentence, or a default. -/
def shownOr (v : Value) (name fallback : String) : String :=
  if v.has name then (v.get name).shown else fallback

def toTransition (v : Value) : Transition where
  eventId := v.shownOr "event_id" "evt-1"
  runId := v.textOr "run_id" "run-1"
  tickId := v.textOr "tick_id" "tick-1"
  taskId := v.taskIdOf
  fromId := v.textOr "from" ""
  toId := v.textOr "to" ""
  event := v.shownOr "event" ""
  reason := .ofValue (v.get "reason")
  attempt := v.intOr "attempt" 1
  loopIteration := v.intOr "loop_iteration" 0
  time := .ofMillis (v.intOr "ms" 0)

/-- The parts of a ledger row and the columns that keep them, in the order of the columns. -/
def rowColumns : List (String × String) :=
  [("event_id", "event_id"), ("run_id", "run_id"), ("tick_id", "tick_id"), ("task_id", "task_id"),
    ("from", "from_state_id"), ("to", "to_state_id"), ("event", "event"), ("attempt", "attempt"),
    ("loop_iteration", "loop_iteration")]

/-- The first column for which a ledger row has null. -/
def missingColumn? (v : Value) : Option String :=
  (rowColumns.find? fun entry => v.has entry.1 && decide (v.get entry.1 = .null)).map Prod.snd

def toTaskDraft (v : Value) : TaskDraft where
  workflowId := v.text? "workflow_id"
  taskId := v.text? "task_id"
  externalId := v.text? "external_id"
  title := v.text? "title"
  prompt := v.text? "prompt"
  contextText := v.text? "context_text"
  context := v.documentAt "context"

/-- What the source of a task says about it; what is left out is taken from a task. -/
def toTaskInfo (v : Value) (fallback : TaskInfo) : TaskInfo where
  id := v.textOr "id" fallback.id
  title := if v.has "title" then v.text? "title" else fallback.title
  prompt := v.text? "prompt"
  context := v.text? "context"

def lifecycleFilter (v : Value) : Except Fault (Option Lifecycle) :=
  match v.get "lifecycle" with
  | .null => .ok none
  | _ => some <$> v.lifecycleOr "lifecycle"

/-- A limit under a name, which is understood as a whole number; `none` when there is none. -/
def limitAt (v : Value) (name : String) : Except Fault (Option Int) :=
  match v.get name with
  | .null => .ok none
  | limit => some <$> limit.toInt.mapError Fault.ofRaised

def runStatusAt (v : Value) : Except Fault RunStatus :=
  match (v.text? "status").bind RunStatus.ofName? with
  | some status => .ok status
  | none => .error (.notAMember (v.get "status").detailed "RunStatus")

end Value

namespace Request

def read (v : Value) : Except Fault Request :=
  let taskId := v.textOr "task_id" ""
  let owner := v.textOr "owner" ""
  let span := v.secondsAt "ttl_seconds" .null
  let runner := v.text? "runner"
  let state := v.get "state"
  match v.textOr "do" "" with
  | "create" => .ok (.create (v.get "task").toTaskDraft)
  | "get" => .ok (.get taskId)
  | "list" => do
    let lifecycle ← v.lifecycleFilter
    let limit ← v.limitAt "limit"
    .ok (.list lifecycle (v.text? "workflow_id") (limit.getD 50))
  | "runnable" => do
    let limit ← v.limitAt "limit"
    .ok (.runnable limit)
  | "load" => .ok (.load taskId)
  | "checkpoint" => do
    let columns ← state.toColumns
    .ok (.checkpoint state.taskIdOf columns (v.text? "lease_owner"))
  | "record" => do
    let columns ← state.toColumns
    let row := v.get "event"
    .ok (.record row.toTransition row.missingColumn? state.taskIdOf columns
      (v.text? "lease_owner"))
  | "events" => .ok (.rows taskId)
  | "feedback" => .ok (.reply taskId (v.textOr "reply" ""))
  | "acquire" => .ok (.acquire taskId owner span)
  | "renew" => .ok (.renew taskId owner span)
  | "release" => .ok (.release taskId owner)
  | "start_run" => .ok (.startRun taskId)
  | "finish_run" => do
    let status ← v.runStatusAt
    .ok (.finishRun (v.textOr "run_id" "") status)
  | "run_status" => .ok (.runStatus (v.textOr "run_id" ""))
  | "clock" => .ok (.clock (v.intOr "ms" 0 * 1000))
  | "tick" => .ok (.tick runner taskId (v.text? "feedback"))
  | "run_once" => .ok (.runOnce runner)
  | "run_loop" => .ok (.runLoop runner (v.int? "max_ticks") (v.intOr "max_idle_polls" 1))
  | "verify" => .ok (.verify runner taskId)
  | "signal" => .ok (.signal (v.textOr "name" ""))
  | name => .error (.raised .value ("Unknown request: " ++ name))

def ofValue (v : Value) : Request :=
  match read v with
  | .ok request => request
  | .error fault => .malformed fault

end Request

/-- How a runner works, out of a document; its worker id is made from its name unless it has one. -/
def Runner.ofValue (name : String) (v : Value) : Except Fault Runner := do
  let leaseMode ←
    if v.get "lease_mode" = .null then .ok LeaseMode.strict
    else
      match (v.text? "lease_mode").bind LeaseMode.ofName? with
      | some mode => .ok mode
      | none => .error (.notAMember (v.get "lease_mode").detailed "LeaseMode")
  let limits := v.get "engine"
  .ok
    { workerId := v.textOr "worker_id" ("worker-" ++ name)
      leaseMode
      leaseSpan := v.secondsAt "lease_seconds" (.int 30)
      budget := .clamped (limits.intOr "max_transitions_per_tick" Budget.defaultPerTick)
        (limits.intOr "max_transitions_per_run" Budget.defaultPerRun)
      verifyReplay := decide (v.get "verify_replay" = .bool true) }

end Tickwork
