import Tickwork.Graph.Basic

/-!
# Rules of a graph

`Graph.violations` lists every rule that a graph breaks, state by state in the order of the graph; a
graph with none may be run. Routes lead to states of the graph, references name registered callables,
retry limits and loop bounds are counts, and no pause resumes into another pause. A graph with a
backoff whose parts cannot be compared cannot be examined at all.
-/

set_option autoImplicit false

namespace Tickwork

variable {F : Type}

namespace Graph

/-- What one route breaks. -/
def routeViolations (g : Graph F) (path : String) (event : String) (target : Target) :
    List Violation :=
  (if event = "" then [⟨path ++ ".routes", "event name must not be empty"⟩] else []) ++
    (match target.getD "" with
    | "" => [⟨s!"{path}.routes.{event}", "transition target must not be empty"⟩]
    | id =>
      if g.hasState id then []
      else [⟨s!"{path}.routes.{event}", s!"transition target `{id}` does not exist"⟩])

def routesViolations (g : Graph F) (path : String) (routes : Routes) : List Violation :=
  if routes.isEmpty then [⟨path ++ ".routes", "must define transitions"⟩]
  else routes.flatMap fun route => g.routeViolations path route.1 route.2

def slotViolations (g : Graph F) (path : String) : Slot F → List Violation
  | .named name =>
    if (g.handlers.lookup name).isSome then [] else [⟨path, s!"unknown handler `{name}`"⟩]
  | .code _ _ => []
  | .absent | .inert _ => [⟨path, "must be callable or a registered name"⟩]

def handlerViolations (g : Graph F) (path : String) : Handler F → List Violation
  | .slot ref => g.slotViolations path ref
  | _ => []

def selectorViolations (g : Graph F) (path : String) : Selector F → List Violation
  | .slot ref => g.slotViolations path ref
  | .route _ _ => []

/-- What one name of a retry limit breaks: if it is set, it is a count. -/
def limitViolations (path : String) : Value → List Violation
  | .null => []
  | .int n => if n < 0 then [⟨path, "must be a non-negative integer"⟩] else []
  | _ => [⟨path, "must be a non-negative integer"⟩]

def backoffViolations (path : String) (b : Backoff) : List Violation :=
  let isBelow (a b : Value) : Bool := (a.isLess b).toOption.getD false
  (if isBelow b.baseMs (.int 0) then [⟨path ++ ".backoff.base_ms", "must be >= 0"⟩] else []) ++
    (if b.capMs ≠ .null ∧ isBelow b.capMs b.baseMs then
      [⟨path ++ ".backoff.cap_ms", "must be >= base_ms"⟩] else [])

def retryViolations (path : String) (p : RetryPolicy) : List Violation :=
  (if decide (p.max = .null) = decide (p.maxRetries = .null) then
    [⟨path, "retry must define exactly one of `max` or `max_retries`"⟩] else []) ++
    limitViolations (path ++ ".max") p.max ++
    limitViolations (path ++ ".max_retries") p.maxRetries ++
    (match p.backoff with | some b => backoffViolations path b | none => [])

def hasHandler : Handler F → Bool
  | .slot .absent => false
  | _ => true

def hasSelector : Selector F → Bool
  | .slot .absent => false
  | _ => true

/-- What the two references of an orchestrate state break: there is exactly one. -/
def orchestrateViolations (g : Graph F) (path : String) (handler : Handler F)
    (selector : Selector F) : List Violation :=
  (if hasHandler handler = hasSelector selector then
    [⟨path, "orchestrate must define exactly one of handler or selector"⟩] else []) ++
    (if hasHandler handler then g.handlerViolations (path ++ ".handler") handler else []) ++
    (if hasSelector selector then g.selectorViolations (path ++ ".selector") selector else [])

def boundViolations (path : String) : Value → List Violation
  | .int n => if n < 0 then [⟨path ++ ".max_iterations", "must be >= 0"⟩] else []
  | _ => [⟨path ++ ".max_iterations", "must be an integer"⟩]

/-- What a loop breaks beside its routes. -/
def loopViolations (g : Graph F) (path : String) (body : Target) (bound : Value) (again : Target)
    (stop : Slot F) : List Violation :=
  (if (body.map g.hasState).getD false then []
    else [⟨path ++ ".body", s!"loop body `{shownOption body}` does not exist"⟩]) ++
    (if again = body then []
    else [⟨path ++ ".routes.continue",
      s!"loop continue transition must target body `{shownOption body}`"⟩]) ++
    boundViolations path bound ++
    (match stop with
    | .named name =>
      if (g.guards.lookup name).isSome then [] else [⟨path ++ ".until", s!"unknown guard `{name}`"⟩]
    | _ => [])

def feedbackViolations (g : Graph F) (id resume : String) : List Violation :=
  let path := s!"states.{id}.resume"
  if resume = previousState then
    if id = g.start then [⟨path, "start state cannot resume to the previous state"⟩] else []
  else
    match g.state? resume with
    | none => [⟨path, s!"resume target `{resume}` does not exist"⟩]
    | some target =>
      if target.isFeedback then [⟨path, s!"resume target `{resume}` is a feedback state"⟩] else []

def stateViolations (g : Graph F) (id : String) (s : State F) : List Violation :=
  let path := s!"states.{id}"
  match s with
  | .action handler routes retry =>
    g.routesViolations path routes.toRoutes ++ g.handlerViolations (path ++ ".handler") handler ++
      (match retry with | some p => retryViolations (path ++ ".retry") p | none => [])
  | .orchestrate routes handler selector =>
    g.routesViolations path routes ++ g.orchestrateViolations path handler selector
  | .loop body bound routes stop =>
    g.routesViolations path routes.toRoutes ++ g.loopViolations path body bound routes.again stop
  | .feedback resume => g.feedbackViolations id resume
  | .terminal _ _ => []
  | .unsupported v => [⟨path, s!"unsupported state type {v.typeName}"⟩]

/-- Every rule that the graph breaks. -/
def violations (g : Graph F) : List Violation :=
  (if g.states.isEmpty then [⟨"states", "factory must define at least one state"⟩] else []) ++
    (if g.hasState g.start then []
    else [⟨"start", s!"start state `{g.start}` does not exist"⟩]) ++
    g.states.flatMap fun entry => g.stateViolations entry.1 entry.2

/-- Fails at the first state with a backoff whose parts cannot be compared. -/
def ensureOrdered (g : Graph F) : Except Fault Unit :=
  g.states.forM fun entry =>
    match entry.2 with
    | .action _ _ (some ⟨_, _, some b⟩) => b.ensureOrdered
    | _ => .ok ()

/-- Every rule that the graph breaks, unless it cannot be examined. -/
def examined (g : Graph F) : Except Fault (List Violation) := do
  g.ensureOrdered
  .ok g.violations

/-- The graph itself if it breaks no rule. -/
def ensureValid (g : Graph F) : Except Fault (Graph F) := do
  match ← g.examined with
  | [] => .ok g
  | found => .error (.invalidGraph g.id found)

end Graph

end Tickwork
