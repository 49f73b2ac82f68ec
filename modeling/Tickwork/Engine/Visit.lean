import Tickwork.Engine.Host

/-!
# Visiting a state

One visit of an action, orchestrate or loop state yields a step: the event that the state routes by,
and the data and message that go with it. An action is tried again while its retry limit allows it;
every failed attempt but the last is recorded as a row that stays on the state.
-/

set_option autoImplicit false

namespace Tickwork

variable {F W : Type}

/-- What a visit decided. -/
structure Step where
  event : String
  reason : Reason
  attempt : Int
  loopIteration : Int
  data : Option Fields
  message : Option String

namespace Engine

/-! ## Rows -/

/-- Records a row for the task and keeps it in the tick. -/
def record (h : Host F W) (fr : Frame F) (fromId toId event : String) (reason : Reason)
    (attempt loopIteration : Int) : Action W Unit := do
  let eventId ← Action.onWorld h.freshEventId
  let time ← Action.onWorld h.now
  let p ← Action.progress
  let row : Transition :=
    { eventId, runId := fr.runId, tickId := fr.tickId, taskId := p.taskId, fromId, toId, event,
      reason := .known reason, attempt, loopIteration, time }
  Action.onStore (h.record row p)
  Action.change fun t => { t with events := t.events ++ [row] }

/-! ## References -/

/-- A handler that can be called, from a reference. -/
def resolveHandler (g : Graph F) (id : String) : Handler F → Except FatalCause (Handler F)
  | .slot (.named name) =>
    match g.handlers.lookup name with
    | some f => .ok (.slot (.code f .whole))
    | none => .error (.unknownHandler name id)
  | .slot .absent | .slot (.inert _) => .error (.handlerNotCallable id)
  | h => .ok h

/-- A selector that can be called, from a reference. -/
def resolveSelector (g : Graph F) (id : String) : Selector F → Except FatalCause (Selector F)
  | .slot (.named name) =>
    match g.handlers.lookup name with
    | some f => .ok (.slot (.code f .whole))
    | none => .error (.unknownHandler name id)
  | .slot .absent | .slot (.inert _) => .error (.handlerNotCallable id)
  | s => .ok s

/-- A guard that can be called, from a reference; `none` if there is no guard. -/
def resolveGuard (g : Graph F) (id : String) : Slot F → Except FatalCause (Option (Slot F))
  | .absent => .ok none
  | .named name =>
    match g.guards.lookup name with
    | some f => .ok (some (.code f .whole))
    | none => .error (.unknownGuard name id)
  | .inert _ => .error (.guardNotCallable id)
  | ref => .ok (some ref)

/-- The result of a check, or the end of the tick. -/
def orFail {α : Type} : Except FatalCause α → Action W α
  | .ok a => pure a
  | .error cause => Action.fail cause

/-! ## Actions -/

/-- Keeps the page of an outcome and forgets the reply once an outcome speaks of it. -/
def observe (o : Outcome) (t : Tick) : Tick :=
  { t with
    pages := t.pages ++ o.page.toList
    feedback := if (o.data.bind (Fields.get? replyKey)).isSome then none else t.feedback }

def handlerInput (fr : Frame F) (t : Tick) (id : String) (attempt : Int) : HandlerInput :=
  { context := t.progress.context, task := fr.task, stateId := id, runId := fr.runId,
    tickId := fr.tickId, attempt, feedback := t.feedback }

/-- How one attempt of an action came out. -/
inductive Attempt where
  | settled (o : Outcome)
  | failed (reason : Reason) (message : String)

def Progress.merge (p : Progress) (data : Option Fields) : Progress :=
  { p with context := Fields.overlay p.context (data.getD []) }

/-- The message of a failed attempt that says nothing itself. -/
def failureMessage (id : String) (attempt : Int) (message : Option String) : String :=
  (firstNonempty [message]).getD s!"State `{id}` failed on attempt {attempt}"

/-- Judges a checked outcome of an action. The data of a failed attempt is kept. -/
def judge (id : String) (attempt : Int) (o : Outcome) : Action W Attempt := do
  Action.change (observe o)
  if !actionEvents.contains o.status then Action.fail (.unsupportedStatus id o.status)
  else if o.status ≠ "failed" then pure (.settled o)
  else do
    Action.changeProgress (Progress.merge · o.data)
    pure (.failed .attemptFailed (failureMessage id attempt o.message))

def attemptOnce (h : Host F W) (fr : Frame F) (id : String) (handler : Handler F)
    (attempt : Int) : Action W Attempt := do
  let t ← Action.tick
  match ← Action.onWorld (handler.run h.behaviour (handlerInput fr t id attempt)) with
  | .error (.fatal cause taskId) => throw (.fatal cause taskId)
  | .error e => pure (.failed .attemptError e.described)
  | .ok v => do
    let o ← orFail (Outcome.read id v)
    judge id attempt o

def Progress.clearAttempts (p : Progress) (id : String) : Progress :=
  { p with attempts := Sorted.erase id p.attempts }

/-- The step of an action whose handler settled. -/
def settledStep (attempt : Int) (o : Outcome) : Step :=
  { event := o.status
    reason := if o.status = "done" then .actionDone else .actionFeedback
    attempt, loopIteration := 0, data := o.data, message := o.message }

/-- The step of an action that failed for the last time. -/
def exhaustedStep (attempt : Int) (message : String) : Step :=
  { event := "failed", reason := .actionExhausted, attempt, loopIteration := 0, data := none,
    message := some message }

def waitForRetry (h : Host F W) (retry : Option RetryPolicy) (attempt : Int) : Action W Unit :=
  match retry with
  | none => pure ()
  | some policy =>
    match policy.delaySeconds attempt with
    | .error fault => throw fault
    | .ok delay => if delay.isPositive then Action.onWorld (h.sleep delay) else pure ()

/-- Tries the handler of an action until it settles or the limit is passed. `room` counts the attempts
from this one on that do not lie above the limit. -/
def tryAttempts (h : Host F W) (fr : Frame F) (id : String) (handler : Handler F)
    (retry : Option RetryPolicy) (limit : Value) : Nat → Int → Action W Step
  | room, attempt => do
    match ← attemptOnce h fr id handler attempt with
    | .settled o => do
      Action.changeProgress fun p =>
        let p := Progress.clearAttempts p id
        if o.status = "done" then { p with lastError := none } else p
      pure (settledStep attempt o)
    | .failed reason message => do
      Action.changeProgress fun p => { p with lastError := some message }
      match room with
      | 0 =>
        if (limit.isBelow? attempt).isNone then
          throw (.incomparable ">" (Value.int attempt).typeName limit.typeName)
        else do
          Action.changeProgress (Progress.clearAttempts · id)
          pure (exhaustedStep attempt message)
      | room + 1 => do
        Action.changeProgress fun p => { p with attempts := Sorted.put id attempt p.attempts }
        record h fr id id "failed" reason attempt 0
        waitForRetry h retry attempt
        tryAttempts h fr id handler retry limit room (attempt + 1)

def runAction (h : Host F W) (fr : Frame F) (id : String) (handler : Handler F)
    (retry : Option RetryPolicy) : Action W Step := do
  let handler ← orFail (resolveHandler fr.graph id handler)
  let limit := (retry.map RetryPolicy.limit).getD (.int 0)
  let p ← Action.progress
  let attempt := (p.attempts.lookup id).getD 0 + 1
  tryAttempts h fr id handler retry limit (limit.roomFrom attempt) attempt

/-! ## Orchestrate states -/

/-- The event that data names, else the status of the report. -/
def routedBy (data : Fields) (status : String) : String :=
  match field "event" data with
  | .str s => if Text.isBlankText s then status else Text.strip s
  | _ => status

def runOrchestrateHandler (h : Host F W) (fr : Frame F) (id : String) (handler : Handler F) :
    Action W Step := do
  let handler ← orFail (resolveHandler fr.graph id handler)
  let t ← Action.tick
  match ← Action.onWorld (handler.run h.behaviour (handlerInput fr t id 1)) with
  | .error (.fatal cause taskId) => throw (.fatal cause taskId)
  | .error e => Action.fail (.orchestrateRaised id e.message)
  | .ok v => do
    let o ← orFail (Outcome.read id v)
    Action.change (observe o)
    let data := o.data.getD []
    pure
      { event := routedBy data o.status, reason := .orchestrateHandler, attempt := 1,
        loopIteration := 0, data := some (Fields.erase "event" data), message := o.message }

def runSelector (h : Host F W) (fr : Frame F) (id : String) (selector : Selector F) :
    Action W Step := do
  let selector ← orFail (resolveSelector fr.graph id selector)
  let p ← Action.progress
  let input : SelectorInput :=
    { context := p.context, task := fr.task, stateId := id, runId := fr.runId, tickId := fr.tickId }
  match ← Action.onWorld (selector.run h.behaviour input) with
  | .error e => Action.fail (.selectorRaised id e.message)
  | .ok (.str s) =>
    if Text.isBlankText s then Action.fail (.noEventName id)
    else
      pure { event := Text.strip s, reason := .orchestrateSelect, attempt := 1, loopIteration := 0,
             data := none, message := none }
  | .ok _ => Action.fail (.noEventName id)

def runOrchestrate (h : Host F W) (fr : Frame F) (id : String) (handler : Handler F)
    (selector : Selector F) : Action W Step :=
  if Graph.hasHandler handler then runOrchestrateHandler h fr id handler
  else if Graph.hasSelector selector then runSelector h fr id selector
  else Action.fail (.nothingToRun id)

/-! ## Loops -/

def Progress.clearIterations (p : Progress) (id : String) : Progress :=
  { p with loopIterations := Sorted.erase id p.loopIterations }

def loopStep (event : String) (reason : Reason) (iteration : Int) : Step :=
  { event, reason, attempt := 1, loopIteration := iteration, data := none, message := none }

/-- Asks the guard of a loop whether it is done. -/
def guardPasses (h : Host F W) (fr : Frame F) (id : String) (stop : Slot F) (iteration : Int) :
    Action W Bool := do
  match ← orFail (resolveGuard fr.graph id stop) with
  | none => pure false
  | some guard => do
    let p ← Action.progress
    let input : GuardInput :=
      { context := p.context, iteration, task := fr.task, stateId := id, runId := fr.runId,
        tickId := fr.tickId }
    let answer ← Action.onWorld (guard.call h.behaviour (.guard input))
    match answer.value with
    | .error e => Action.fail (.guardRaised id e.message)
    | .ok v => pure v.truthy

def runLoop (h : Host F W) (fr : Frame F) (id : String) (bound : Value) (stop : Slot F) :
    Action W Step := do
  let p ← Action.progress
  let iteration := (p.loopIterations.lookup id).getD 0
  if ← guardPasses h fr id stop iteration then do
    Action.changeProgress (Progress.clearIterations · id)
    pure (loopStep "done" .loopDone iteration)
  else
    match bound.isReached? iteration with
    | none => throw (.incomparable ">=" (Value.int iteration).typeName bound.typeName)
    | some true => do
      Action.changeProgress (Progress.clearIterations · id)
      pure (loopStep "exhausted" .loopExhausted iteration)
    | some false => do
      Action.changeProgress fun p =>
        { p with loopIterations := Sorted.put id (iteration + 1) p.loopIterations }
      pure (loopStep "continue" .loopContinue (iteration + 1))

/-! ## All states -/

/-- Visits a state that neither pauses nor ends the task. -/
def runState (h : Host F W) (fr : Frame F) (id : String) : State F → Action W Step
  | .action handler _ retry => runAction h fr id handler retry
  | .orchestrate _ handler selector => runOrchestrate h fr id handler selector
  | .loop _ bound _ stop => runLoop h fr id bound stop
  | .unsupported v => Action.fail (.unsupportedState id v.typeName)
  | .feedback _ => Action.fail (.unsupportedState id "FeedbackState")
  | .terminal _ _ => Action.fail (.unsupportedState id "TerminalState")

end Engine

end Tickwork
