import Tickwork.Shop.Request

/-!
# The shop

A shop holds the tables of a task store, the factories that its runners know, a clock, running numbers
for fresh names, and what its runners have said and done. `Work` is an operation in a shop, which may
fail and leaves the shop as it then is.
-/

set_option autoImplicit false

namespace Tickwork

structure Shop where
  now : Instant
  eventCount : Nat
  tickCount : Nat
  rowCount : Nat
  tables : Tables
  graphs : List (String × Graph Code)
  runners : List (String × Runner)
  relay : Relay
  notices : List Notice
  waits : List Binary64
  /-- How the requests of callables came out. -/
  asides : List (Except Fault Response)
  /-- The signal that has stopped a runner. -/
  stopped : List (String × String)
  /-- The runners whose loops are running, the innermost first. -/
  loops : List String
  tally : Tally

/-- An operation in a shop. -/
abbrev Work (α : Type) := ExceptT Fault (StateM Shop) α

namespace Shop

/-- A shop that opens at an instant. -/
def opened (now : Instant) : Shop where
  now := now
  eventCount := 0
  tickCount := 0
  rowCount := 0
  tables := .empty
  graphs := []
  runners := []
  relay := .kept
  notices := []
  waits := []
  asides := []
  stopped := []
  loops := []
  tally := []

def passTime (micros : Int) (s : Shop) : Shop :=
  { s with now := ⟨s.now.micros + micros⟩ }

/-- Forgets what was said and done so far. -/
def cleared (s : Shop) : Shop :=
  { s with notices := [], waits := [], asides := [] }

def freshRowId : StateM Shop String := do
  modify fun s => { s with rowCount := s.rowCount + 1 }
  return s!"rid-{(← get).rowCount}"

def freshEventId : StateM Shop String := do
  modify fun s => { s with eventCount := s.eventCount + 1 }
  return s!"evt-{(← get).eventCount}"

def freshTickId : StateM Shop String := do
  modify fun s => { s with tickCount := s.tickCount + 1 }
  return s!"tick-{(← get).tickCount}"

def setTables (t : Tables) : Work Unit :=
  modify fun s => { s with tables := t }

def ofExcept {α : Type} : Except Fault α → Work α
  | .ok a => pure a
  | .error fault => throw fault

/-- Makes a write that may not land, and tells whether it did. -/
def attempt (write : Tables → Instant → Except Fault (Option Tables)) : Work Bool := do
  let s ← get
  match ← ofExcept (write s.tables s.now) with
  | some t => do
    setTables t
    pure true
  | none => pure false

/-! ## Tasks and runs -/

def create (draft : TaskDraft) : Work TaskView := do
  let taskId ← match firstNonempty [draft.taskId] with
    | some id => pure id
    | none => freshRowId
  let s ← get
  setTables (← ofExcept (s.tables.create s.now taskId draft))
  let row ← ofExcept ((← get).tables.getTask taskId)
  ofExcept row.view

def find? (taskId : String) : Work (Option TaskView) := do
  match (← get).tables.task? taskId with
  | none => pure none
  | some row => do
    let view ← ofExcept row.view
    pure (some view)

def getTask (taskId : String) : Work TaskView := do
  match ← find? taskId with
  | some view => pure view
  | none => throw (.taskNotFound taskId)

def load (taskId : String) : Work Progress := do
  let row ← ofExcept ((← get).tables.getTask taskId)
  ofExcept row.progress

/-- Continues the open run of a task, or opens a new one. -/
def startRun (taskId : String) : Work String := do
  let row ← ofExcept ((← get).tables.getTask taskId)
  match (← get).tables.activeRun? row with
  | some run => do
    setTables ((← get).tables.continueRun run)
    pure run.runId
  | none => do
    let runId ← freshRowId
    let s ← get
    setTables (s.tables.openRun s.now row runId)
    pure runId

def finishRun (runId : String) (status : RunStatus) : Work Unit := do
  setTables (← ofExcept ((← get).tables.finishRun runId status))

def graph (workflowId : String) : Work (Graph Code) := do
  match (← get).graphs.lookup workflowId with
  | some g => pure g
  | none => throw (.catalog (.unknown workflowId))

/-! ## Notices -/

/-- A page as a notice about a task. What is no page has no parts to tell of, a text least of all its
content, and a line needs the length of the page. -/
def pageNotice (relay : Relay) (task : TaskRow) : Value → Except Raised Notice
  | .page markdown title =>
    let name : Value :=
      if title.truthy then title
      else .str ((firstNonempty [task.title]).getD task.taskId)
    if relay = .logged ∧ markdown.items?.isNone then
      .error (.error .type s!"object of type '{markdown.typeName}' has no len()")
    else .ok (.page task.taskId title markdown name)
  | .str s => .error (.noMember (Value.str s).typeName "markdown")
  | v => .error (.noMember v.typeName "title")

/-- Gives a notice. -/
def announce (notice : Notice) : Work Unit :=
  modify fun s => { s with notices := s.notices ++ [notice] }

def announcePage (task : TaskRow) (page : Value) : Work Unit := do
  let relay := (← get).relay
  let notice ← ofExcept ((pageNotice relay task page).mapError Fault.ofRaised)
  announce notice

end Shop

end Tickwork
