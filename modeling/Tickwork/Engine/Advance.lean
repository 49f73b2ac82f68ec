import Tickwork.Engine.Visit

/-!
# Advancing a task

`Engine.advance` takes a task from where it stands until it pauses, ends or has spent the budget of the
tick. Every change is written to the store: one write when the task starts running, one row for each
transition and each failed attempt, one write when the task is found at a pause or an end, and one when
it fails for good.
-/

set_option autoImplicit false

namespace Tickwork

variable {F W : Type}

namespace Engine

/-! ## Pauses and ends -/

/-- The first of some texts that is not empty, else a default. -/
def firstWords (texts : List (Option String)) (fallback : String) : String :=
  (firstNonempty texts).getD fallback

def Progress.atEnd (p : Progress) (id : String) (status : EndStatus)
    (message arrival : Option String) : Progress :=
  { p with
    lifecycle := .ofEnd status
    currentStateId := none
    terminalStateId := some id
    waitingSince := none
    attempts := []
    loopIterations := []
    lastError :=
      if status = .done then none
      else some (firstWords [message, arrival, p.lastError] s!"Terminal state: {status.name}") }

def applyTerminal (id : String) (status : EndStatus) (message arrival : Option String) :
    Action W Unit :=
  Action.changeProgress fun p => Progress.atEnd p id status message arrival

/-- Pauses the task; it goes on at the resume target of the pause. -/
def applyPause (h : Host F W) (fr : Frame F) (id : String) (previous : Option String) :
    Action W Unit := do
  match fr.graph.resumeTarget id previous with
  | .error fault => throw fault
  | .ok target => do
    Action.changeProgress fun p => { p with currentStateId := some target, lifecycle := .feedback }
    let now ← Action.onWorld h.now
    Action.changeProgress fun p => { p with waitingSince := some now }

def checkpoint (h : Host F W) : Action W Unit := do
  let p ← Action.progress
  Action.onStore (h.checkpoint p)

/-- What the tick has to report. -/
def finished (ending : Lifecycle → Ending) (message : Option String) : Action W Finish := do
  let t ← Action.tick
  pure { ending := ending t.progress.lifecycle, transitions := t.transitions, events := t.events,
         pages := t.pages, message }

/-! ## Transitions -/

/-- The state that a task is to visit next. -/
def position (g : Graph F) (p : Progress) : String :=
  (firstNonempty [p.currentStateId]).getD g.start

/-- Looks at the state where the task stands: a pause or an end finishes the tick, any other state is
to be visited. -/
def arrive (h : Host F W) (fr : Frame F) (previous : Option String) :
    Action W (Finish ⊕ (String × State F)) := do
  let p ← Action.progress
  let id := position fr.graph p
  match fr.graph.state? id with
  | none => Action.fail (.missingState id)
  | some (.terminal status message) => do
    applyTerminal id status message none
    checkpoint h
    let p ← Action.progress
    .inl <$> finished Ending.ofLifecycle p.lastError
  | some (.feedback _) => do
    applyPause h fr id previous
    checkpoint h
    .inl <$> finished Ending.ofLifecycle none
  | some node => pure (.inr (id, node))

/-- Marks the task as running, with a write if it was not. -/
def markRunning (h : Host F W) : Action W Unit := do
  let p ← Action.progress
  if p.lifecycle ≠ .running then do
    Action.changeProgress fun p => { p with lifecycle := .running, waitingSince := none }
    checkpoint h

def move (step : Step) (target : String) (t : Tick) : Tick :=
  let p := Progress.merge t.progress step.data
  { t with
    progress := { p with currentStateId := some target, transitionCount := p.transitionCount + 1 }
    transitions := t.transitions + 1 }

/-- The target of a step, which has to be a state of the graph. -/
def stepTarget (g : Graph F) (id : String) (node : State F) (step : Step) :
    Except FatalCause (String × State F) :=
  match node.target? step.event with
  | none => .error (.noTransition step.event id)
  | some target =>
    match g.state? target with
    | none => .error (.missingState target)
    | some targetNode => .ok (target, targetNode)

/-- What the arrival at a target means for the task. -/
def applyArrival (h : Host F W) (fr : Frame F) (id target : String) (arrival : Option String) :
    State F → Action W Unit
  | .terminal status message => applyTerminal target status message arrival
  | .feedback _ => applyPause h fr target (some id)
  | _ => pure ()

/-- What is reported of the arrival at a target, if it finishes the tick. -/
def arrivalFinish (step : Step) : State F → Action W (Option Finish)
  | .terminal _ message => do
    let p ← Action.progress
    let words := if p.lifecycle = .done then
      (match firstNonempty [message] with | some s => some s | none => step.message)
      else p.lastError
    some <$> finished Ending.ofLifecycle words
  | .feedback _ => some <$> finished Ending.ofLifecycle step.message
  | _ => pure none

/-- Takes one transition out of a state. -/
def takeTransition (h : Host F W) (fr : Frame F) (budget : Budget) (id : String)
    (node : State F) : Action W (Option Finish) := do
  let t ← Action.tick
  if budget.perRun ≤ t.transitions then Action.fail (.runBudget t.transitions fr.tickId)
  else do
    markRunning h
    let step ← runState h fr id node
    let (target, targetNode) ← orFail (stepTarget fr.graph id node step)
    Action.change (move step target)
    applyArrival h fr id target step.message targetNode
    record h fr id target step.event step.reason step.attempt step.loopIteration
    arrivalFinish step targetNode

/-- Takes transitions until the tick finishes; `left` counts those that its budget still allows. -/
def run (h : Host F W) (fr : Frame F) (budget : Budget) :
    Nat → Option String → Action W Finish
  | left, previous => do
    match ← arrive h fr previous with
    | .inl finish => pure finish
    | .inr (id, node) =>
      match left with
      | 0 => finished (fun _ => .budgetExhausted) none
      | left + 1 => do
        match ← takeTransition h fr budget id node with
        | some finish => pure finish
        | none => run h fr budget left (some id)

/-! ## Advance -/

/-- The task as a tick starts with it: the defaults of the graph below its own context, and a
position. -/
def prepare (g : Graph F) (p : Progress) : Progress :=
  { p with
    context := Fields.overlay g.context p.context
    currentStateId := some (p.currentStateId.getD g.start) }

def Progress.failedWith (p : Progress) (message : String) : Progress :=
  { p with lifecycle := .failed, lastError := some message, waitingSince := none }

/-- Runs a part of a tick; if it ends the task for good, writes the failed task and names it. -/
def orPersistFailure {α : Type} (h : Host F W) (act : Action W α) : Action W α :=
  tryCatch act fun fault =>
    match fault with
    | .fatal cause taskId => do
      Action.changeProgress (Progress.failedWith · cause.message)
      checkpoint h
      let p ← Action.progress
      throw (.fatal cause (some (taskId.getD p.taskId)))
    | fault => throw fault

/-- The reply that a tick may hand to the callables: only a paused task takes one. -/
def acceptedReply (p : Progress) (feedback : Option String) : Option String :=
  if p.lifecycle = .feedback then feedback else none

/-- An id for the tick: the given one, unless it is missing or empty. -/
def tickIdFor (h : Host F W) (given : Option String) : StateM W String :=
  match firstNonempty [given] with
  | some id => pure id
  | none => h.freshTickId

/-- Advances a task. Gives what the tick reports or why it failed, and where the task stands then. -/
def advance (h : Host F W) (budget : Budget) (g : Graph F) (task : TaskInfo) (runId : String)
    (tickId feedback : Option String) (p : Progress) :
    StateM W (Except Fault Finish × Progress) := do
  if p.lifecycle.isTerminal then
    pure (.ok { ending := .ofLifecycle p.lifecycle, transitions := 0, events := [], pages := [],
                message := p.lastError }, p)
  else do
    let tickId ← tickIdFor h tickId
    let fr : Frame F := { graph := g, task, runId, tickId }
    let tick : Tick :=
      { progress := prepare g p, feedback := acceptedReply p feedback, events := [], pages := [],
        transitions := 0 }
    let world ← get
    let (result, live) := (orPersistFailure h (run h fr budget budget.perTick none)).run
      { tick, world }
    set live.world
    pure (result, live.tick.progress)

end Engine

end Tickwork
