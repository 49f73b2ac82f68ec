import Tickwork.Definition.Basic

/-!
# Compiling a definition

Each primitive is lowered to one or two states. An ask gets a pause of its own and a route without an
unmapped event gets a failed end of its own, under ids built from the authored one; an id that comes
up twice stops the compilation. What lowering finds missing is reported before the rules of the graph,
and a rule is left out where lowering already reported the same path.
-/

set_option autoImplicit false

namespace Tickwork

variable {F : Type}

/-- The context key that holds a reply until an ask consumes it. -/
def replyKey : String := "human_feedback"

/-- The event that a route takes for every word it does not know. -/
def unmappedEvent : String := "__route_unmapped__"

/-- The id of the pause of an ask. -/
def feedbackId (id : String) : String := id ++ "__feedback"

/-- The id of the failed end of a route. -/
def routeFailedId (id : String) : String := id ++ "__route_failed"

/-- What lowering one item gives: what it misses, and its states. -/
structure Lowered (F : Type) where
  missing : List Violation
  states : List (String × State F)

/-- The target of an event that a primitive has to route, and the complaint when it does not. -/
def requiredRoute (id : String) (on : Routes) (event : String) : List Violation × Target :=
  match ((on.lookup event).join).getD "" with
  | "" => ([⟨s!"states.{id}.routes.{event}", s!"must define `{event}` transition"⟩], some "")
  | target => ([], some target)

def actionEvents : List String := ["done", "feedback", "failed"]

/-- The routes of an action from what the author routed. -/
def actionRoutes (id : String) (on : Routes) : List Violation × ActionRoutes :=
  let strange := on.filterMap fun route =>
    if actionEvents.contains route.1 then none
    else some ⟨s!"states.{id}.routes.{route.1}", "actions only route `done`, `feedback` and `failed`"⟩
  let (noDone, done) := requiredRoute id on "done"
  let (noFailed, failed) := requiredRoute id on "failed"
  (strange ++ noDone ++ noFailed, ⟨done, failed, (on.lookup "feedback").join⟩)

/-- The first text that is not empty. -/
def firstNonempty : List (Option String) → Option String
  | [] => none
  | some s :: rest => if s = "" then firstNonempty rest else some s
  | none :: rest => firstNonempty rest

/-- Lowers a route. A selector given by name is looked up among the handlers of the definition. -/
def lowerRoute (handlers : List (String × F)) (id : String) (select : Slot F) (on : Routes) :
    Lowered F :=
  let mapped := (on.lookup unmappedEvent).isSome
  let routes := if mapped then on else on ++ [(unmappedEvent, some (routeFailedId id))]
  let ends := if mapped then [] else [(routeFailedId id, State.terminal .failed none)]
  let (missing, select) : List Violation × Slot F := match select with
    | .named name =>
      match handlers.lookup name with
      | some f => ([], .code f .whole)
      | none => ([⟨s!"states.{id}.selector", s!"unknown handler `{name}`"⟩], select)
    | other => ([], other)
  ⟨missing, (id, .orchestrate routes (.slot .absent) (.route select (names routes))) :: ends⟩

/-- Lowers one item. -/
def lowerItem (handlers : List (String × F)) (id : String) : Item F → Lowered F
  | .state (.unsupported v) => ⟨[⟨s!"states.{id}", s!"unsupported primitive {v.typeName}"⟩], []⟩
  | .state s => ⟨[], [(id, s)]⟩
  | .primitive (.step run on retry) =>
    let (missing, routes) := actionRoutes id on
    ⟨missing, [(id, .action run routes retry)]⟩
  | .primitive (.ask prompt reader on resume) =>
    let (missing, routes) := actionRoutes id (Ordered.put "feedback" (some (feedbackId id)) on)
    let target := firstNonempty [resume, (on.lookup "feedback").join]
    ⟨missing, [(id, .action (.ask prompt reader) routes none),
      (feedbackId id, .feedback (target.getD previousState))]⟩
  | .primitive (.route select on) => lowerRoute handlers id select on
  | .primitive (.loop body bound on stop) =>
    let (noDone, done) := requiredRoute id on "done"
    let (noExhausted, exhausted) := requiredRoute id on "exhausted"
    ⟨noDone ++ noExhausted, [(id, .loop body bound ⟨body, done, exhausted⟩ stop)]⟩
  | .primitive (.publish render on) =>
    let (missing, routes) := actionRoutes id on
    ⟨missing, [(id, .action (.publish render) routes none)]⟩
  | .primitive (.finish status message) => ⟨[], [(id, .terminal status message)]⟩

/-- Adds the states lowered from the item `id`, unless one of their ids is taken. -/
def addStates (id : String) : List (String × State F) → List (String × State F) →
    Except Fault (List (String × State F))
  | states, [] => .ok states
  | states, (emitted, s) :: rest =>
    if (states.lookup emitted).isSome then .error (.collision id emitted)
    else addStates id (states ++ [(emitted, s)]) rest

def lowerItems (handlers : List (String × F)) : Lowered F → List (String × Item F) →
    Except Fault (Lowered F)
  | done, [] => .ok done
  | done, (id, item) :: rest => do
    let lowered := lowerItem handlers id item
    let states ← addStates id done.states lowered.states
    lowerItems handlers ⟨done.missing ++ lowered.missing, states⟩ rest

namespace Definition

/-- The graph of a definition from its lowered states. -/
def graphOf (d : Definition F) (states : List (String × State F)) : Graph F :=
  { id := d.id, start := d.start, context := d.context, states, guards := d.guards,
    handlers := d.handlers }

/-- Compiles a definition into a graph that breaks no rule. -/
def compile (d : Definition F) : Except Fault (Graph F) := do
  let lowered ← lowerItems d.handlers ⟨[], []⟩ d.items
  let g := d.graphOf lowered.states
  let reported := lowered.missing.map Violation.path
  let broken ← g.examined
  match lowered.missing ++ broken.filter (fun v => !reported.contains v.path) with
  | [] => .ok g
  | found => .error (.invalidGraph d.id found)

end Definition

end Tickwork
