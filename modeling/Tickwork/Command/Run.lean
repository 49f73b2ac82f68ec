import Tickwork.Catalog.Basic
import Tickwork.Command.Basic
import Tickwork.Settings
import Tickwork.Shop.Serve
import Tickwork.Text.Line

/-!
# Running commands

An office is where commands run: it has an environment to take settings from, a shelf of modules with
factories, and a store of tasks under every path. A command reports lines, and beside them a fault if
it failed; a command that was refused has lines and a closing word.
-/

set_option autoImplicit false

namespace Tickwork

/-- Why a command failed. -/
inductive CommandFault where
  | usage (fault : UsageFault)
  | refused (words : String)
  | fault (fault : Fault)
  deriving DecidableEq

def CommandFault.message : CommandFault → String
  | .usage f => f.message
  | .refused words => words
  | .fault f => f.message

/-- The exit code for a failure: a command line that cannot be read has one of its own. -/
def CommandFault.exitCode : CommandFault → Nat
  | .usage _ => 2
  | .refused _ | .fault _ => 1

/-- What a command prints, and why it failed if it did. -/
structure Report where
  lines : List String
  failure : Option CommandFault
  deriving DecidableEq

/-- What a command prints: its lines, each with a break after it. -/
def Report.text (r : Report) : String :=
  String.join (r.lines.map (· ++ "\n"))

/-- The lines as a reader of the output counts them: one with breaks in it counts as several. -/
def Report.printed (r : Report) : List String :=
  Text.lines r.text

structure Office where
  environment : Environment
  shelf : Shelf
  /-- The site of the next callable that is read. -/
  sites : Nat
  /-- The shop as the last command left it; its tables are those of the last store. -/
  shop : Shop
  /-- The tables of the stores, by path. -/
  stores : List (String × Tables)

/-- A part of a command, which may fail. -/
abbrev Errand (α : Type) := ExceptT Fault (StateM Office) α

namespace Office

/-! ## Means of a command -/

def ofExcept {α : Type} : Except Fault α → Errand α
  | .ok a => pure a
  | .error fault => throw fault

/-- Reads something that has callables in it. -/
def reading {α : Type} (read : Reading α) : Errand α := do
  let office ← get
  let (a, sites) ← ofExcept (read office.sites)
  set { office with sites }
  pure a

def settings (storePath : Option String) : Errand Settings := do
  ofExcept ((Settings.read (← get).environment storePath).mapError Fault.settings)

/-- Where factories are looked for when nobody says where. -/
def defaultSources : List String := ["taskfactory.factories"]

/-- Where to look for factories: what the command says, else what the settings say. -/
def sourcesOf (given : List String) (s : Settings) : List String :=
  let chosen := ((given.map Text.strip).filter (· ≠ "")).foldl
    (fun parts part => if parts.contains part then parts else parts ++ [part]) []
  if !chosen.isEmpty then chosen
  else if !s.sources.isEmpty then s.sources
  else defaultSources

def registry (given : List String) (s : Settings) : Errand Registry := do
  let paths := sourcesOf given s
  let shelf := (← get).shelf
  reading fun sites =>
    match Registry.ofPaths shelf [] paths sites with
    | .error fault =>
      if fault.isValueFault then
        .error (.catalog (.cannotLoad (", ".intercalate paths) fault.message))
      else .error fault
    | found => found

/-- Works in the shop that has the tables of a store. -/
def inShop {α : Type} (storePath : String) (graphs : Registry) (work : Work α) : Errand α :=
  ExceptT.mk fun office =>
    let tables := (office.stores.lookup storePath).getD .empty
    let (result, shop) := work.run
      { office.shop with tables, graphs, relay := .logged, stopped := [] }
    (result, { office with shop, stores := Sorted.put storePath shop.tables office.stores })

/-! ## The commands -/

def checkLines (c : Shelf.Check) : List String :=
  let name := (firstNonempty [c.factoryId]).getD "-"
  if c.ok then [s!"  ok {name} ({c.path})"]
  else
    let problem := (firstNonempty [c.problem]).toList.map fun words => s!"    {words}"
    s!"  invalid {name} ({c.path})" ::
      (problem ++ c.violations.map fun v => s!"    {v.path}: {v.message}")

def checkFactories (given : List String) : Errand Report := do
  let s ← settings none
  let paths := sourcesOf given s
  let shelf := (← get).shelf
  let checks ← reading (shelf.check paths)
  let joined := ", ".intercalate paths
  let valid := (checks.filter Shelf.Check.ok).length
  let lines := s!"Factory sources: {joined}" :: checks.flatMap checkLines ++
    [s!"Factories checked: {checks.length} valid={valid}"]
  let good := !checks.isEmpty && checks.all Shelf.Check.ok
  pure ⟨lines, if good then none else some (.refused "Factory validation failed.")⟩

def readContext (text : Option String) : Except Fault Value :=
  match firstNonempty [text] with
  | none => .ok (.dict [])
  | some text =>
    match Value.read text with
    | .error fault =>
      let words := fault.message text
      let grammatical := fault.problem.isGrammatical
      .error (.raised .value
        (if grammatical then "Context must be a JSON object: " ++ words else words))
    | .ok (.dict fields) => .ok (.dict fields)
    | .ok _ => .error (.raised .value "Context must be a JSON object.")

def createTask (storePath : Option String) (sources : List String) (workflowId : String)
    (taskId title prompt context : Option String) : Errand Report := do
  let s ← settings storePath
  let graphs ← registry sources s
  let _ ← ofExcept (graphs.get workflowId)
  let context ← ofExcept (readContext context)
  let draft : TaskDraft :=
    { workflowId, taskId, externalId := none, title, prompt, contextText := none, context }
  let view ← inShop s.storePath graphs (Shop.create draft)
  pure
    ⟨[s!"Task created: {view.row.taskId} factory={view.row.workflowId} lifecycle=queued"], none⟩

def positionOf (c : Columns) : String :=
  (firstNonempty [c.terminalStateId, c.currentStateId]).getD "-"

def taskLine (view : TaskView) : String :=
  let row := view.row
  let c := row.columns
  let position := positionOf c
  s!"{row.taskId} factory={row.workflowId} lifecycle={c.lifecycle.name} state={position}" ++
    s!" transitions={c.transitionCount}"

def listTasks (storePath : Option String) (lifecycle : Option Lifecycle)
    (workflowId : Option String) (limit : Int) : Errand Report := do
  let s ← settings storePath
  let views ← inShop s.storePath [] do
    Shop.ofExcept (((← get).tables.listTasks lifecycle workflowId limit).mapM TaskRow.view)
  pure ⟨if views.isEmpty then ["No tasks found."] else views.map taskLine, none⟩

def rowLine (t : Transition) : String :=
  let time := t.time.writtenUtc
  s!"  {time} {t.fromId} -[{t.event}]-> {t.toId} reason={t.reason.text}" ++
    s!" attempt={t.attempt} loop={t.loopIteration}"

def labelled (label : String) (text : Option String) : List String :=
  (firstNonempty [text]).toList.map fun words => s!"{label}: {words}"

def viewTask (storePath : Option String) (taskId : String) (withRows : Bool) :
    Errand Report := do
  let s ← settings storePath
  let (view, rows) ← inShop s.storePath [] do
    match ← Shop.find? taskId with
    | none => throw (.raised .value s!"Task not found: {taskId}")
    | some view => pure (view, (← get).tables.rowsFor taskId)
  let row := view.row
  let c := row.columns
  let context ← ofExcept (((Value.dict view.context).written .ascii).mapError Fault.unwritable)
  let position := positionOf c
  let head :=
    [s!"Task: {row.taskId}", s!"Factory: {row.workflowId}", s!"Lifecycle: {c.lifecycle.name}",
      s!"State: {position}", s!"Transitions: {c.transitionCount}"]
  let extras := labelled "Title" row.title ++
    labelled "Waiting since" (c.waitingSince.map Instant.writtenUtc) ++
    labelled "Last error" c.lastError ++ [s!"Context: {context}"]
  let ledger :=
    if withRows then s!"Transition events: {rows.length}" :: rows.map rowLine else []
  pure ⟨head ++ extras ++ ledger, none⟩

def replyTo (storePath : Option String) (taskId text : String) : Errand Report := do
  let s ← settings storePath
  let refused := some (CommandFault.refused "Reply was not accepted.")
  if Text.isBlankText text then pure ⟨["Reply must not be empty."], refused⟩
  else do
    let landed ← inShop s.storePath []
      (Shop.attempt fun t now => t.submitReply now taskId text)
    if landed then
      pure ⟨[s!"Reply stored for task {taskId}; it resumes on the next tick."], none⟩
    else pure ⟨[s!"Task {taskId} is not awaiting feedback; reply ignored."], refused⟩

def replayTask (storePath : Option String) (sources : List String) (taskId : String) :
    Errand Report := do
  let s ← settings storePath
  let graphs ← registry sources s
  let replayed : Except ReplayMismatch (Option String × Nat) ← inShop s.storePath graphs fun shop =>
    match (Shop.verify taskId).run shop with
    | (.ok final, shop) => (.ok (.ok (final, (shop.tables.rowsFor taskId).length)), shop)
    | (.error (.replay mismatch), shop) => (.ok (.error mismatch), shop)
    | (.error fault, shop) => (.error fault, shop)
  match replayed with
  | .ok (final, count) =>
    let place := (firstNonempty [final]).getD "-"
    pure ⟨[s!"Replay ok: task={taskId} events={count} final={place}"], none⟩
  | .error mismatch =>
    pure ⟨["Replay mismatch: " ++ mismatch.message],
      some (.refused "Replay verification failed.")⟩

def defaultWorkerId : String := "local-worker"

/-- The runner that the settings describe. -/
def runnerOf (s : Settings) (leaseMode : Option LeaseMode) (workerId : Option String) : Runner where
  workerId := (firstNonempty [workerId]).getD (s.workerId.getD defaultWorkerId)
  leaseMode := leaseMode.getD s.leaseMode
  leaseSpan := .real s.leaseSeconds
  budget := .clamped s.perTick s.perRun
  verifyReplay := s.verifyReplay

def tickLine (r : TickReport) : String :=
  let word := (r.ending.map Ending.name).getD "lease held"
  if r.skipped then s!"Tick skipped: task={r.taskId} ({word})"
  else
    let message := match firstNonempty [r.message] with
      | some words => " message=" ++ Text.quoted words
      | none => ""
    s!"Tick finished: task={r.taskId} outcome={word} transitions={r.transitions}{message}"

def summaryLine (workerId : String) (s : Summary) : String :=
  s!"Worker {workerId}: processed={s.processed} done={s.done} blocked={s.blocked}" ++
    s!" failed={s.failed} feedback={s.feedback} paused={s.paused} skipped={s.skipped}" ++
    s!" idle_polls={s.idlePolls}"

/-- Runs a runner: for one task, for a round of all tasks, or in a loop. -/
def runTick (storePath : Option String) (sources : List String) (taskId : Option String)
    (loop : Bool) (maxTicks : Option Int) (leaseMode : Option LeaseMode)
    (workerId : Option String) : Errand Report := do
  let s ← settings storePath
  let runner := runnerOf s leaseMode workerId
  ofExcept (s.validate.mapError Fault.settings)
  let graphs ← registry sources s
  let name := runner.workerId
  let perform := Shop.perform Shop.nestingCeiling
  match taskId with
  | some taskId => do
    let report ← inShop s.storePath graphs (Shop.tick perform runner taskId none)
    pure ⟨[tickLine report], none⟩
  | none => do
    let work :=
      if loop then Shop.runLoop perform name runner maxTicks 1
      else Shop.runOnce perform name runner
    let summary ← inShop s.storePath graphs work
    pure ⟨[summaryLine name summary], none⟩

def versionLine : String := "taskfactory, version 0.1.0"

def carryOut : Command → Errand Report
  | .help => pure ⟨[], none⟩
  | .version => pure ⟨[versionLine], none⟩
  | .check sources => checkFactories sources
  | .create storePath sources workflowId taskId title prompt context =>
    createTask storePath sources workflowId taskId title prompt context
  | .list storePath lifecycle workflowId limit => listTasks storePath lifecycle workflowId limit
  | .view storePath taskId withRows => viewTask storePath taskId withRows
  | .reply storePath taskId text => replyTo storePath taskId text
  | .replay storePath sources taskId => replayTask storePath sources taskId
  | .tick storePath sources taskId loop maxTicks leaseMode workerId =>
    runTick storePath sources taskId loop maxTicks leaseMode workerId

/-- Reads a command line and carries it out. -/
def run (words : List String) : StateM Office Report := do
  match Command.read words with
  | .error fault => pure ⟨[], some (.usage fault)⟩
  | .ok command =>
    match ← (carryOut command).run with
    | .ok report => pure report
    | .error fault => pure ⟨[], some (.fault fault)⟩

end Office

end Tickwork
