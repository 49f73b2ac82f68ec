import Tickwork.Engine.Advance

/-!
# Turns of the engine

Between two writes to the store the engine asks at most one callable. A turn is that stretch of a tick:
from where the tick stands, through the answer of the callable, to the next write. `question` says what
is asked, `reacted` what follows from the answer, `landed` where the task then is and which row tells of
it; none of them looks at the world. `Turn` puts them together, `Walk` is a run of turns.
-/

set_option autoImplicit false

namespace Tickwork

variable {F W : Type}

/-- Where a tick stands between two writes: the progress of its task and the reply that it may still
hand out. -/
structure Stance where
  progress : Progress
  feedback : Option String

/-- Where a tick stands. -/
def Tick.stance (t : Tick) : Stance := ⟨t.progress, t.feedback⟩

/-- The part of a row that does not name its run or its time. -/
structure Shape where
  fromId : String
  toId : String
  event : String
  reason : ReasonTag
  attempt : Int
  loopIteration : Int
  deriving DecidableEq

/-- The part of a row that does not name its run or its time. -/
def Transition.shape (t : Transition) : Shape :=
  ⟨t.fromId, t.toId, t.event, t.reason, t.attempt, t.loopIteration⟩

/-- A write to the store: the row if one is appended, the progress that is kept, and the pages that
were rendered since the write before. -/
structure Entry where
  row : Option Transition
  progress : Progress
  pages : List Value

def Progress.attemptNumber (p : Progress) (id : String) : Int :=
  (p.attempts.lookup id).getD 0 + 1

def Progress.roundsBegun (p : Progress) (id : String) : Int :=
  (p.loopIterations.lookup id).getD 0

def Stance.handlerInput (s : Stance) (fr : Frame F) (id : String) (attempt : Int) : HandlerInput :=
  { context := s.progress.context, task := fr.task, stateId := id, runId := fr.runId,
    tickId := fr.tickId, attempt, feedback := s.feedback }

def Stance.selectorInput (s : Stance) (fr : Frame F) (id : String) : SelectorInput :=
  { context := s.progress.context, task := fr.task, stateId := id, runId := fr.runId,
    tickId := fr.tickId }

def Stance.guardInput (s : Stance) (fr : Frame F) (id : String) : GuardInput :=
  { context := s.progress.context, iteration := s.progress.roundsBegun id, task := fr.task,
    stateId := id, runId := fr.runId, tickId := fr.tickId }

def Stance.observe (s : Stance) (o : Outcome) : Stance :=
  { s with
    feedback := if (o.data.bind (Fields.get? replyKey)).isSome then none else s.feedback }

namespace Engine

/-! ## What is asked -/

/-- What a visit asks of a callable. A loop without a guard asks nothing. -/
inductive Question (F : Type) where
  | handler (h : Handler F) (input : HandlerInput)
  | selector (s : Selector F) (input : SelectorInput)
  | guard (g : Slot F) (input : GuardInput)
  | nothing

/-- Asks a question. Where nothing is asked, the answer is no. -/
def Question.ask (b : Behaviour F W) : Question F → StateM W (Except Raised Value)
  | .handler h input => h.run b input
  | .selector s input => s.run b input
  | .guard g input => do
    let answer ← g.call b (.guard input)
    pure answer.value
  | .nothing => pure (.ok (.bool false))

def question (fr : Frame F) (id : String) (s : Stance) : State F → Except FatalCause (Question F)
  | .action handler _ _ => do
    let handler ← resolveHandler fr.graph id handler
    .ok (.handler handler (s.handlerInput fr id (s.progress.attemptNumber id)))
  | .orchestrate _ handler selector =>
    if Graph.hasHandler handler then do
      let handler ← resolveHandler fr.graph id handler
      .ok (.handler handler (s.handlerInput fr id 1))
    else if Graph.hasSelector selector then do
      let selector ← resolveSelector fr.graph id selector
      .ok (.selector selector (s.selectorInput fr id))
    else .error (.nothingToRun id)
  | .loop _ _ _ stop => do
    match ← resolveGuard fr.graph id stop with
    | none => .ok .nothing
    | some guard => .ok (.guard guard (s.guardInput fr id))
  | .unsupported v => .error (.unsupportedState id v.typeName)
  | .feedback _ => .error (.unsupportedState id "FeedbackState")
  | .terminal _ _ => .error (.unsupportedState id "TerminalState")

/-! ## What follows from an answer -/

/-- What an answer leads to: where the tick then stands, the pages that came with the answer, and the
result. -/
structure Judgement (α : Type) where
  after : Stance
  pages : List Value
  result : Except Fault α

/-- How a visit goes on: an action tries again, or the task leaves the state. -/
inductive Verdict where
  | again (reason : Reason) (attempt : Int)
  | leave (step : Step)

def judged (id : String) (attempt : Int) (s : Stance) (o : Outcome) : Judgement Attempt :=
  let s := s.observe o
  if !actionEvents.contains o.status then
    ⟨s, o.page.toList, .error (.fatal (.unsupportedStatus id o.status) none)⟩
  else if o.status ≠ "failed" then ⟨s, o.page.toList, .ok (.settled o)⟩
  else
    ⟨{ s with progress := Progress.merge s.progress o.data }, o.page.toList,
      .ok (.failed .attemptFailed (failureMessage id attempt o.message))⟩

def attempted (id : String) (attempt : Int) (s : Stance) :
    Except Raised Value → Judgement Attempt
  | .error (.fatal cause taskId) => ⟨s, [], .error (.fatal cause taskId)⟩
  | .error e => ⟨s, [], .ok (.failed .attemptError e.described)⟩
  | .ok v =>
    match Outcome.read id v with
    | .error cause => ⟨s, [], .error (.fatal cause none)⟩
    | .ok o => judged id attempt s o

def attemptLimit (retry : Option RetryPolicy) : Value :=
  (retry.map RetryPolicy.limit).getD (.int 0)

def Progress.settled (p : Progress) (id : String) (o : Outcome) : Progress :=
  let p := Progress.clearAttempts p id
  if o.status = "done" then { p with lastError := none } else p

/-- What one attempt means for its action: it leaves, tries again while the limit allows it, or leaves
as failed. -/
def concluded (id : String) (limit : Value) (attempt : Int) (p : Progress) :
    Attempt → Except Fault Verdict × Progress
  | .settled o => (.ok (.leave (settledStep attempt o)), Progress.settled p id o)
  | .failed reason message =>
    let p := { p with lastError := some message }
    if limit.roomFrom attempt = 0 then
      if (limit.isBelow? attempt).isNone then
        (.error (.incomparable ">" (Value.int attempt).typeName limit.typeName), p)
      else (.ok (.leave (exhaustedStep attempt message)), Progress.clearAttempts p id)
    else (.ok (.again reason attempt), { p with attempts := Sorted.put id attempt p.attempts })

def actionReacted (id : String) (retry : Option RetryPolicy) (s : Stance)
    (answer : Except Raised Value) : Judgement Verdict :=
  let attempt := s.progress.attemptNumber id
  let j := attempted id attempt s answer
  match j.result with
  | .error fault => ⟨j.after, j.pages, .error fault⟩
  | .ok a =>
    let conclusion := concluded id (attemptLimit retry) attempt j.after.progress a
    ⟨{ j.after with progress := conclusion.2 }, j.pages, conclusion.1⟩

/-- The step of an orchestrate state whose handler reported. -/
def reportedStep (o : Outcome) : Step :=
  let data := o.data.getD []
  { event := routedBy data o.status, reason := .orchestrateHandler, attempt := 1,
    loopIteration := 0, data := some (Fields.erase "event" data), message := o.message }

def handlerReacted (id : String) (s : Stance) : Except Raised Value → Judgement Verdict
  | .error (.fatal cause taskId) => ⟨s, [], .error (.fatal cause taskId)⟩
  | .error e => ⟨s, [], .error (.fatal (.orchestrateRaised id e.message) none)⟩
  | .ok v =>
    match Outcome.read id v with
    | .error cause => ⟨s, [], .error (.fatal cause none)⟩
    | .ok o => ⟨s.observe o, o.page.toList, .ok (.leave (reportedStep o))⟩

/-- The step of an orchestrate state whose selector named an event. -/
def selectedStep (event : String) : Step :=
  { event := Text.strip event, reason := .orchestrateSelect, attempt := 1, loopIteration := 0,
    data := none, message := none }

def selectorReacted (id : String) (s : Stance) : Except Raised Value → Judgement Verdict
  | .error e => ⟨s, [], .error (.fatal (.selectorRaised id e.message) none)⟩
  | .ok (.str event) =>
    if Text.isBlankText event then ⟨s, [], .error (.fatal (.noEventName id) none)⟩
    else ⟨s, [], .ok (.leave (selectedStep event))⟩
  | .ok _ => ⟨s, [], .error (.fatal (.noEventName id) none)⟩

def loopReacted (id : String) (bound : Value) (s : Stance) :
    Except Raised Value → Judgement Verdict
  | .error e => ⟨s, [], .error (.fatal (.guardRaised id e.message) none)⟩
  | .ok v =>
    let rounds := s.progress.roundsBegun id
    let cleared := { s with progress := Progress.clearIterations s.progress id }
    if v.truthy then ⟨cleared, [], .ok (.leave (loopStep "done" .loopDone rounds))⟩
    else
      match bound.isReached? rounds with
      | none =>
        ⟨s, [], .error (.incomparable ">=" (Value.int rounds).typeName bound.typeName)⟩
      | some true => ⟨cleared, [], .ok (.leave (loopStep "exhausted" .loopExhausted rounds))⟩
      | some false =>
        let p := s.progress
        ⟨{ s with
            progress := { p with loopIterations := Sorted.put id (rounds + 1) p.loopIterations } },
          [], .ok (.leave (loopStep "continue" .loopContinue (rounds + 1)))⟩

def reacted (id : String) (s : Stance) :
    State F → Except Raised Value → Judgement Verdict
  | .action _ _ retry, answer => actionReacted id retry s answer
  | .orchestrate _ handler _, answer =>
    if Graph.hasHandler handler then handlerReacted id s answer else selectorReacted id s answer
  | .loop _ bound _ _, answer => loopReacted id bound s answer
  | _, _ => ⟨s, [], .error (.fatal (.unsupportedState id "") none)⟩

/-! ## Where the task lands -/

def Progress.moved (p : Progress) (step : Step) (target : String) : Progress :=
  let p := Progress.merge p step.data
  { p with currentStateId := some target, transitionCount := p.transitionCount + 1 }

def Progress.pausedAt (p : Progress) (next : String) (now : Instant) : Progress :=
  { p with currentStateId := some next, lifecycle := .feedback, waitingSince := some now }

def Progress.begun (p : Progress) : Progress :=
  { p with lifecycle := .running, waitingSince := none }

def arrived (g : Graph F) (id target : String) (now : Instant) (arrival : Option String)
    (p : Progress) : State F → Except Fault Progress
  | .terminal status message => .ok (Progress.atEnd p target status message arrival)
  | .feedback _ => (g.resumeTarget target (some id)).map fun next => Progress.pausedAt p next now
  | _ => .ok p

/-- The row that a verdict leads to, and the progress that is kept with it. -/
def landed (g : Graph F) (id : String) (node : State F) (now : Instant) (p : Progress) :
    Verdict → Except Fault (Shape × Progress)
  | .again reason attempt => .ok (⟨id, id, "failed", .known reason, attempt, 0⟩, p)
  | .leave step =>
    match stepTarget g id node step with
    | .error cause => .error (.fatal cause none)
    | .ok (target, targetNode) =>
      (arrived g id target now step.message (Progress.moved p step target) targetNode).map fun p =>
        (⟨id, target, step.event, .known step.reason, step.attempt, step.loopIteration⟩, p)

/-! ## Turns -/

def StandsAt (g : Graph F) (p : Progress) (id : String) (node : State F) : Prop :=
  position g p = id ∧ g.state? id = some node

/-- Whether a state is one that a task visits, not one that stops it. -/
def isWork (node : State F) : Bool := !node.isTerminal && !node.isFeedback

/-- A visit of a state whose question got an answer. -/
structure Visit (answers : Question F → Except Raised Value → Prop) (fr : Frame F) (s : Stance)
    (id : String) (node : State F) (j : Judgement Verdict) : Prop where
  stands : StandsAt fr.graph s.progress id node
  work : isWork node = true
  running : s.progress.lifecycle = .running
  answered : ∃ q answer, question fr id s node = .ok q ∧ answers q answer ∧ j = reacted id s node answer

/-- The task is given up where the tick stands: nothing more is written but that it failed. `capped`
says whether a run may be given up for its length. -/
inductive Doomed (answers : Question F → Except Raised Value → Prop) (capped : Prop)
    (fr : Frame F) (s : Stance) : FatalCause → Option String → Stance → Prop
  | missing (absent : fr.graph.state? (position fr.graph s.progress) = none) :
      Doomed answers capped fr s (.missingState (position fr.graph s.progress)) none s
  | spent {id : String} {node : State F} (transitions : Nat)
      (stands : StandsAt fr.graph s.progress id node) (work : isWork node = true) (cap : capped) :
      Doomed answers capped fr s (.runBudget transitions fr.tickId) none s
  | unasked {id : String} {node : State F} {cause : FatalCause}
      (stands : StandsAt fr.graph s.progress id node) (work : isWork node = true)
      (running : s.progress.lifecycle = .running)
      (unresolved : question fr id s node = .error cause) :
      Doomed answers capped fr s cause none s
  | judged {id : String} {node : State F} {j : Judgement Verdict} {cause : FatalCause}
      {taskId : Option String} (visit : Visit answers fr s id node j)
      (refused : j.result = .error (.fatal cause taskId)) :
      Doomed answers capped fr s cause taskId j.after
  | unrouted {id : String} {node : State F} {j : Judgement Verdict} {verdict : Verdict}
      {now : Instant} {cause : FatalCause} {taskId : Option String}
      (visit : Visit answers fr s id node j) (decided : j.result = .ok verdict)
      (astray : landed fr.graph id node now j.after.progress verdict = .error (.fatal cause taskId)) :
      Doomed answers capped fr s cause taskId j.after

/-- One turn: from where a tick stands to its next write. -/
inductive Turn (answers : Question F → Except Raised Value → Prop) (capped : Prop)
    (fr : Frame F) (s : Stance) : Entry → Stance → Prop
  | begin {id : String} {node : State F} (stands : StandsAt fr.graph s.progress id node)
      (work : isWork node = true) (idle : s.progress.lifecycle ≠ .running) :
      Turn answers capped fr s ⟨none, Progress.begun s.progress, []⟩
        ⟨Progress.begun s.progress, s.feedback⟩
  | halt {id : String} {status : EndStatus} {message : Option String}
      (stands : StandsAt fr.graph s.progress id (.terminal status message)) :
      Turn answers capped fr s ⟨none, Progress.atEnd s.progress id status message none, []⟩
        ⟨Progress.atEnd s.progress id status message none, s.feedback⟩
  | rest {id resume next : String} {now : Instant}
      (stands : StandsAt fr.graph s.progress id (.feedback resume))
      (resumes : fr.graph.resumeTarget id none = .ok next) :
      Turn answers capped fr s ⟨none, Progress.pausedAt s.progress next now, []⟩
        ⟨Progress.pausedAt s.progress next now, s.feedback⟩
  | visit {id : String} {node : State F} {j : Judgement Verdict} {verdict : Verdict}
      {now : Instant} {row : Transition} {p : Progress}
      (visit : Visit answers fr s id node j) (decided : j.result = .ok verdict)
      (lands : landed fr.graph id node now j.after.progress verdict = .ok (row.shape, p))
      (owner : row.taskId = p.taskId) (fits : row.check = .ok ()) :
      Turn answers capped fr s ⟨some row, p, j.pages⟩ ⟨p, j.after.feedback⟩
  | fail {cause : FatalCause} {taskId : Option String} {after : Stance}
      (doomed : Doomed answers capped fr s cause taskId after) :
      Turn answers capped fr s ⟨none, Progress.failedWith after.progress cause.message, []⟩
        ⟨Progress.failedWith after.progress cause.message, after.feedback⟩

/-- A run of turns. It goes on only while the task is under way. -/
inductive Walk (answers : Question F → Except Raised Value → Prop) (capped : Prop)
    (fr : Frame F) : Stance → List Entry → Stance → Prop
  | refl (s : Stance) : Walk answers capped fr s [] s
  | last {s after : Stance} {e : Entry} (turn : Turn answers capped fr s e after) :
      Walk answers capped fr s [e] after
  | step {s middle after : Stance} {e : Entry} {entries : List Entry}
      (turn : Turn answers capped fr s e middle)
      (running : middle.progress.lifecycle = .running)
      (rest : Walk answers capped fr middle entries after) :
      Walk answers capped fr s (e :: entries) after

end Engine

end Tickwork
