import Tickwork.Engine.Advance
import Tickwork.Ledger.Replay
import Tickwork.Shop.Basic

/-!
# Runners

A runner advances tasks, one tick of the engine at a time. Under the strict mode it works on a task only
while it holds the lease, which it renews before every write; a write that finds the lease gone ends
the tick. In the other mode it works without a lease and checks the ledger after the tick. A lease that
was taken is given back however the tick ends.
-/

set_option autoImplicit false

namespace Tickwork

namespace Shop

/-! ## The leased store -/

/-- Makes a write for a task, with a renewal of the lease before it. -/
def leasedWrite (taskId : String) (owner : Option String) (span : Instant.Seconds)
    (write : Tables → Instant → Except Fault (Option Tables)) : Work Unit := do
  match owner with
  | none => pure ()
  | some owner =>
    if !(← attempt fun t now => t.renew now taskId owner span) then
      throw (.leaseLost taskId owner)
  if !(← attempt write) then
    throw (.leaseLost taskId (shownOption owner))

/-- The world of the engine in a shop, for one tick of a runner. -/
def host (perform : Request → StateM Shop Unit) (runner : Runner) (taskId : String) :
    Host Code Shop :=
  let owner := if runner.leaseMode = .strict then some runner.workerId else none
  { behaviour := Routine.behaviour
      { count := fun site s =>
          let (n, tally) := s.tally.next site
          (n, { s with tally })
        perform }
    now := do
      let s ← get
      pure s.now
    freshEventId := freshEventId
    freshTickId := freshTickId
    sleep := fun delay => modify fun s => { s with waits := s.waits ++ [delay] }
    checkpoint := fun p => leasedWrite taskId owner runner.leaseSpan fun t now =>
      t.checkpoint now p.taskId p.columns owner
    record := fun row p => leasedWrite taskId owner runner.leaseSpan fun t now =>
      t.record now row none p.taskId p.columns owner }

/-! ## One tick -/

/-- Does something, and gives a lease back afterwards. -/
def releasing {α : Type} (acquired : Bool) (taskId owner : String) (act : Work α) : Work α :=
  ExceptT.mk fun s =>
    let (result, s) := act.run s
    (result, if acquired then { s with tables := s.tables.release taskId owner } else s)

def runStatusOf : Ending → RunStatus
  | .done => .done
  | .blocked => .blocked
  | .failed => .failed
  | .feedback => .feedback
  | .budgetExhausted => .running

/-- Checks the ledger of a task against its progress, and gives the end of the ledger. -/
def verify (taskId : String) : Work (Option String) := do
  let task ← getTask taskId
  let g ← graph task.row.workflowId
  let rows := (← get).tables.rowsFor taskId
  let p ← load taskId
  ofExcept (g.verify rows p)

/-- Tells of an advance: its pages, its question, and the stage that it led to. -/
def tellOf (task : TaskRow) (previous : Lifecycle) (finish : Finish) (p : Progress) :
    Work Unit := do
  finish.pages.forM (announcePage task)
  if finish.ending = .feedback then announce (.feedback task.taskId finish.message)
  if p.lifecycle ≠ previous then
    announce (.lifecycle task.taskId previous p.lifecycle p.lastError)

def advanceTask (perform : Request → StateM Shop Unit) (runner : Runner) (task : TaskView)
    (g : Graph Code) (feedback : Option String) : Work TickReport := do
  let taskId := task.row.taskId
  let p ← load taskId
  let previous := p.lifecycle
  let runId ← startRun taskId
  let (result, p) ← Engine.advance (host perform runner taskId) runner.budget g task.row.info
    runId none feedback p
  match result with
  | .error (.fatal cause _) => do
    finishRun runId .failed
    announce (.lifecycle taskId previous .failed (some cause.message))
    pure ⟨taskId, some .failed, 0, some cause.message, false⟩
  | .error fault => throw fault
  | .ok finish => do
    finishRun runId (runStatusOf finish.ending)
    tellOf task.row previous finish p
    if runner.verifyReplay ∨ runner.leaseMode = .bestEffort then
      let _ ← verify taskId
    pure ⟨taskId, some finish.ending, finish.transitions, finish.message, false⟩

/-- One tick of a runner for a task. A task that has ended, that waits for a reply or that another
worker holds is left alone. -/
def tick (perform : Request → StateM Shop Unit) (runner : Runner) (taskId : String)
    (feedback : Option String) : Work TickReport := do
  let task ← getTask taskId
  let columns := task.row.columns
  if columns.lifecycle.isTerminal then
    pure ⟨taskId, some (.ofLifecycle columns.lifecycle), 0, columns.lastError, true⟩
  else if columns.lifecycle = .feedback ∧ feedback = none then
    pure ⟨taskId, some .feedback, 0, some "Awaiting reply", true⟩
  else do
    let g ← graph task.row.workflowId
    let acquired ← attempt fun t now => t.acquire now taskId runner.workerId runner.leaseSpan
    if !acquired && runner.leaseMode = .strict then pure ⟨taskId, none, 0, none, true⟩
    else
      releasing acquired taskId runner.workerId (advanceTask perform runner task g feedback)

/-! ## Many ticks -/

def isStopped (name : String) : Work Bool := do
  pure ((← get).stopped.lookup name).isSome

/-- Whether a fault only means that a task has to be left alone. -/
def isAbandonment : Fault → Bool
  | .leaseLost .. | .replay _ => true
  | _ => false

/-- Ticks tasks one after the other until the runner is stopped. -/
def tickAll (perform : Request → StateM Shop Unit) (name : String) (runner : Runner) :
    Summary → List String → Work Summary
  | summary, [] => pure summary
  | summary, taskId :: rest => do
    if ← isStopped name then pure summary
    else do
      let s ← get
      match (tick perform runner taskId none).run s with
      | (.ok report, s) => do
        set s
        tickAll perform name runner (summary.count report) rest
      | (.error fault, s) => do
        set s
        if isAbandonment fault then tickAll perform name runner summary.skip rest
        else throw fault

/-- Ticks every task that may be picked up, once. -/
def runOnce (perform : Request → StateM Shop Unit) (name : String) (runner : Runner) :
    Work Summary := do
  match (← get).tables.runnable none with
  | [] => pure { Summary.zero with idlePolls := 1 }
  | taskIds => tickAll perform name runner .zero taskIds

/-- Goes on round after round until the runner is stopped, has made enough ticks or was idle often
enough in a row. Rounds that go on for ever come to nothing. -/
def runRounds (perform : Request → StateM Shop Unit) (name : String) (runner : Runner)
    (maxTicks : Option Int) (maxIdlePolls : Int) (idle : Nat) (total : Summary) (s : Shop) :
    Option (Except Fault Summary × Shop) :=
  if (s.stopped.lookup name).isSome then some (.ok total, s)
  else if maxTicks.any fun (limit : Int) => decide (limit ≤ total.processed) then
    some (.ok total, s)
  else
    match (runOnce perform name runner).run s with
    | (.error fault, s) => some (.error fault, s)
    | (.ok summary, s) =>
      let total := total.add summary
      if summary.processed = 0 then
        if maxIdlePolls ≤ (idle + 1 : Int) then some (.ok total, s)
        else (runRounds perform name runner maxTicks maxIdlePolls (s := s)) (idle + 1) total
      else (runRounds perform name runner maxTicks maxIdlePolls (s := s)) 0 total
partial_fixpoint

/-- Runs the loop of a runner; while it runs, it is the one that signals stop. A loop that goes on for
ever has no answer, and what it would leave behind is of no account. -/
def runLoop (perform : Request → StateM Shop Unit) (name : String) (runner : Runner)
    (maxTicks : Option Int) (maxIdlePolls : Int) : Work Summary :=
  ExceptT.mk fun s =>
    match runRounds perform name runner maxTicks maxIdlePolls 0 .zero
        { s with loops := name :: s.loops } with
    | some (result, after) => (result, { after with loops := s.loops })
    | none => (.ok .zero, s)

end Shop

end Tickwork
