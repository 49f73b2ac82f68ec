import Tickwork.Value.Fields
import Tickwork.Value.Number

/-!
# Factory graphs

A factory is a graph of states. An action runs a handler and routes by its status, an orchestrate
state routes by a handler's or a selector's word, a loop repeats its body, a feedback state pauses the
task for a reply and a terminal state ends it. Callables are not part of the graph: it names them by
values of a type `F`, and whoever runs the graph says what they do.
-/

set_option autoImplicit false

namespace Tickwork

variable {F : Type}

/-! ## References to callables -/

/-- How much of its input a callable is shown: all of it, or only the context. -/
inductive Scope where
  | whole
  | context
  deriving DecidableEq

/-- What an author may write where a callable is expected. -/
inductive Slot (F : Type) where
  | absent
  | named (name : String)
  | code (f : F) (scope : Scope)
  | inert (v : Value)
  deriving DecidableEq

/-- The name of the type of what stands in a slot. -/
def Slot.typeName : Slot F → String
  | .absent => Value.null.typeName
  | .named name => (Value.str name).typeName
  | .code _ _ => "function"
  | .inert v => v.typeName

/-- The event that a decision takes for an undeclared key when it has somewhere to go. -/
def otherwiseEvent : String := "__otherwise__"

/-- The event that a decision takes for an undeclared key when it has nowhere to go. -/
def unknownBranchEvent : String := "__unknown_branch__"

/-- How the answer of a reply parser is understood: as a handler's report, or as changes to the
context. -/
inductive ReplyReader (F : Type) where
  | report (parse : Slot F)
  | changes (parse : Slot F)
  deriving DecidableEq

/-- What an action or an orchestrate state runs. -/
inductive Handler (F : Type) where
  /-- A callable that reports for itself, or nothing. -/
  | slot (ref : Slot F)
  /-- Asks for a reply and reads it. -/
  | ask (prompt : Slot F) (reader : Option (ReplyReader F))
  /-- Renders a page. -/
  | publish (render : Slot F)
  /-- Lays what the callable gives over the context. -/
  | merge (run : F)
  /-- Picks a branch by its key. -/
  | decide (select : F) (branches : List String) (hasOtherwise : Bool)
  deriving DecidableEq

/-- What an orchestrate state asks for an event name. -/
inductive Selector (F : Type) where
  | slot (ref : Slot F)
  /-- Folds every word that is not a known event into the unmapped event. -/
  | route (select : Slot F) (known : List String)
  deriving DecidableEq

/-! ## Retries -/

/-- How the delay before a retry grows. -/
inductive Strategy where
  | fixed
  | exponential
  deriving DecidableEq

def Strategy.name : Strategy → String
  | .fixed => "fixed"
  | .exponential => "exponential"

def Strategy.ofName? (name : String) : Option Strategy :=
  [Strategy.fixed, .exponential].find? fun s => s.name == name

/-- The delay before each retry, in milliseconds. Base and cap are kept as they were given; the cap is
null when there is none. -/
structure Backoff where
  baseMs : Value
  strategy : Strategy
  capMs : Value
  deriving DecidableEq

namespace Backoff

/-- How many bits a length has. -/
def lengthBits : Nat := 63

/-- How many bits the length of a text or a list has that is too long to be kept. -/
def memoryBits : Nat := 35

/-- Fails if a text or a list of a length cannot be repeated so often that its length is doubled `n`
times. -/
def ensureRepeatable (isText : Bool) (length n : Nat) : Except Fault Unit :=
  if lengthBits ≤ n then .error (.raised .overflow "cannot fit 'int' into an index-sized integer")
  else if length * twoTo n < twoTo memoryBits then .ok ()
  else if isText && decide (twoTo lengthBits ≤ length * twoTo n) then
    .error (.raised .overflow "repeated string is too long")
  else .error (.raised .memory "")

/-- The base of a number of doublings. What is no number cannot be doubled, but a text or a list can
be repeated and stays one. -/
def doubled (base : Value) (n : Nat) : Except Fault Value :=
  match base with
  | .str s => (fun _ => base) <$> ensureRepeatable true s.length n
  | .list items => (fun _ => base) <$> ensureRepeatable false items.length n
  | base =>
    match base.quantity? with
    | none => .error (.noProduct base.typeName (Value.int 0).typeName)
    | some q =>
      match q.doubled? n with
      | some q => .ok (.ofQuantity q)
      | none => .error .tooLarge

/-- The delay after failed attempt number `attempt` before it is cut off: the base, doubled with each
further attempt when it grows exponentially. -/
def growth (b : Backoff) (attempt : Int) : Except Fault Value :=
  match b.strategy with
  | .fixed => .ok b.baseMs
  | .exponential => doubled b.baseMs (attempt - 1).toNat

/-- The delay after failed attempt number `attempt`, cut off at the cap and never negative. -/
def delayMs (b : Backoff) (attempt : Int) : Except Fault Value := do
  let delay ← b.growth attempt
  let lower ← if b.capMs = .null then .ok false else b.capMs.isLess delay
  let capped := if lower then b.capMs else delay
  match capped.quantity? with
  | none => .error (.incomparable ">" capped.typeName (Value.int 0).typeName)
  | some q => .ok (if (Quantity.whole 0).below q then capped else .int 0)

/-- Fails if base and cap cannot be compared as the rules of a graph ask for. -/
def ensureOrdered (b : Backoff) : Except Fault Unit := do
  let _ ← b.baseMs.isLess (.int 0)
  if b.capMs ≠ .null then
    let _ ← b.capMs.isLess b.baseMs

end Backoff

/-- How often a failed action is tried again. The limit may be given under either of two names. -/
structure RetryPolicy where
  max : Value
  maxRetries : Value
  backoff : Option Backoff
  deriving DecidableEq

namespace RetryPolicy

/-- The limit in force: the first name counts, then the second, then no retry. -/
def limit (p : RetryPolicy) : Value :=
  if p.max ≠ .null then p.max
  else if p.maxRetries.truthy then p.maxRetries
  else .int 0

/-- The delay in seconds after a failed attempt. A delay beyond all doubles is a fault. -/
def delaySeconds (p : RetryPolicy) (attempt : Int) : Except Fault Binary64 := do
  match p.backoff with
  | none => .ok (Binary64.zero false)
  | some b =>
    match (← b.delayMs attempt).quantity?.bind Quantity.toBinary64? with
    | some ms => .ok (ms.divNat 1000)
    | none => .error .tooLarge

end RetryPolicy

/-! ## States -/

/-- How a task can end. -/
inductive EndStatus where
  | done
  | blocked
  | failed
  deriving DecidableEq

def EndStatus.name : EndStatus → String
  | .done => "done"
  | .blocked => "blocked"
  | .failed => "failed"

def EndStatus.ofName? (name : String) : Option EndStatus :=
  [EndStatus.done, .blocked, .failed].find? fun s => s.name == name

/-- Where a route leads; an author may have left it open. -/
abbrev Target := Option String

/-- Routes by event name, in the order in which they were given. -/
abbrev Routes := List (String × Target)

/-- The routes of an action, one for each status it may report. -/
structure ActionRoutes where
  done : Target
  failed : Target
  feedback : Target
  deriving DecidableEq

/-- The routes of an action as a list; the feedback route only if it is there. -/
def ActionRoutes.toRoutes (r : ActionRoutes) : Routes :=
  [("done", r.done), ("failed", r.failed)] ++
    (match r.feedback with | some id => [("feedback", some id)] | none => [])

/-- The routes of a loop. -/
structure LoopRoutes where
  again : Target
  done : Target
  exhausted : Target
  deriving DecidableEq

def LoopRoutes.toRoutes (r : LoopRoutes) : Routes :=
  [("continue", r.again), ("done", r.done), ("exhausted", r.exhausted)]

/-- The resume target that stands for the state that led to the pause. -/
def previousState : String := "previous"

inductive State (F : Type) where
  | action (handler : Handler F) (routes : ActionRoutes) (retry : Option RetryPolicy)
  | orchestrate (routes : Routes) (handler : Handler F) (selector : Selector F)
  | loop (body : Target) (maxIterations : Value) (routes : LoopRoutes) (stop : Slot F)
  | feedback (resume : String)
  | terminal (status : EndStatus) (message : Option String)
  /-- A value that is no state. -/
  | unsupported (v : Value)
  deriving DecidableEq

namespace State

def routes : State F → Routes
  | .action _ routes _ => routes.toRoutes
  | .orchestrate routes _ _ => routes
  | .loop _ _ routes _ => routes.toRoutes
  | .feedback _ | .terminal _ _ | .unsupported _ => []

/-- Where an event leads from a state. -/
def target? (s : State F) (event : String) : Target :=
  (s.routes.lookup event).join

def isFeedback : State F → Bool
  | .feedback _ => true
  | _ => false

def isTerminal : State F → Bool
  | .terminal _ _ => true
  | _ => false

end State

/-! ## Graphs -/

structure Graph (F : Type) where
  id : String
  start : String
  context : Fields
  states : List (String × State F)
  guards : List (String × F)
  handlers : List (String × F)
  deriving DecidableEq

namespace Graph

/-- The state under an id. Null in place of a state counts as no state. -/
def state? (g : Graph F) (id : String) : Option (State F) :=
  match g.states.lookup id with
  | some (.unsupported .null) => none
  | found => found

def hasState (g : Graph F) (id : String) : Bool :=
  (g.states.lookup id).isSome

/-- The ids of the states that pause a task, in order. -/
def feedbackIds (g : Graph F) : List String :=
  (g.states.filter fun entry => entry.2.isFeedback).map Prod.fst

/-- Where a task continues that is paused at a state and came from `previous`. -/
def resumeTarget (g : Graph F) (id : String) (previous : Option String) : Except Fault String :=
  match g.states.lookup id with
  | none => .error (.unknownState id)
  | some (.feedback resume) =>
    if resume ≠ previousState then .ok resume
    else .ok (match previous with | some p => if p = "" then id else p | none => id)
  | some _ => .error (.notAPause id)

end Graph

end Tickwork
