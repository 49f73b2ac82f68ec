import Tickwork.Proofs.Isolation
import Tickwork.Proofs.Lockstep

/-!
# One task in two sets of tables

A task may stand in two sets of tables, with its runs under other names and with other times. What is
written of it here and there then lands here and there, or in neither, and leaves the task alike.
-/

set_option autoImplicit false

namespace Tickwork

theorem Kin.self (v : Value) : Kin (fun f f' : Fields => f = f') v v := by
  cases mapping : v.asMapping? with
  | none => exact .same v mapping
  | some fields =>
      unfold Value.asMapping? at mapping
      split at mapping <;> cases mapping
      · exact .dict rfl
      · exact .view rfl

/-- Data that is the same. -/
def Likeness.exactly : Likeness where
  fields f f' := f = f'
  nothing := rfl
  used := rfl
  isEmpty same := congrArg List.isEmpty same
  get? := by
    rintro f _ rfl name
    cases Fields.get? name f with
    | none => exact .none
    | some v => exact .some (.self v)
  erase same name := congrArg (Fields.erase name) same
  overlay same same' := same ▸ same' ▸ rfl

/-! ## Rows -/

/-- Columns without the last error and the time since which the task waits. -/
def Columns.bare (c : Columns) : Columns := { c with lastError := none, waitingSince := none }

/-- Columns that are the same, times and the names of ticks in messages apart. -/
structure Columns.Alike (c c' : Columns) : Prop where
  bare : c.bare = c'.bare
  lastError : Option.Rel Blamed c.lastError c'.lastError
  waiting : c.waitingSince.isSome = c'.waitingSince.isSome

theorem Progress.Like.columns {p p' : Progress} (alike : p.Like .exactly p') :
    p.columns.Alike p'.columns where
  bare := by
    have same : { p.level with context := p.context } = { p'.level with context := p'.context } := by
      rw [alike.level, show p.context = p'.context from alike.context]
    exact (congrArg (fun p => p.columns.bare) same :)
  lastError := alike.lastError
  waiting := alike.waiting

theorem Columns.Alike.stored {c c' : Columns} (alike : c.Alike c') : Both Columns.Alike c.stored c'.stored := by
  have context : c.context = c'.context := (congrArg Columns.context alike.bare :)
  have attempts : c.attempts = c'.attempts := (congrArg Columns.attempts alike.bare :)
  have rounds : c.loopIterations = c'.loopIterations := (congrArg Columns.loopIterations alike.bare :)
  have count : fitsColumn c.transitionCount = fitsColumn c'.transitionCount :=
    (congrArg (fun c : Columns => fitsColumn c.transitionCount) alike.bare :)
  unfold Columns.stored
  rw [context, attempts, rounds, count]
  cases Columns.document c'.context with
  | error fault => exact .error fault
  | ok context =>
      cases Columns.document c'.attempts with
      | error fault => exact .error fault
      | ok attempts =>
          cases Columns.document c'.loopIterations with
          | error fault => exact .error fault
          | ok rounds =>
              simp only [bind, Except.bind]
              split
              · refine .ok ⟨?_, alike.lastError, alike.waiting⟩
                exact (congrArg
                  (fun c : Columns => { c with context, attempts, loopIterations := rounds }) alike.bare :)
              · exact .error _

/-- A task without its columns, its run, its lease and the time of its last change. -/
def TaskRow.bare (row : TaskRow) : TaskRow :=
  { row with columns := .fresh .null, activeRunId := none, lease := none, updatedAt := row.createdAt }

/-- Two rows of a task that are the same, times and the names of runs and ticks apart. -/
structure TaskRow.Alike (σ : String → String) (row row' : TaskRow) : Prop where
  bare : row.bare = row'.bare
  columns : row.columns.Alike row'.columns
  run : row.activeRunId.map σ = row'.activeRunId
  owner : row.lease.map Lease.owner = row'.lease.map Lease.owner

namespace TaskRow.Alike

variable {σ : String → String} {row row' : TaskRow}

theorem taskId (alike : row.Alike σ row') : row.taskId = row'.taskId :=
  (congrArg TaskRow.taskId alike.bare :)

theorem workflowId (alike : row.Alike σ row') : row.workflowId = row'.workflowId :=
  (congrArg TaskRow.workflowId alike.bare :)

theorem info (alike : row.Alike σ row') : row.info = row'.info := (congrArg TaskRow.info alike.bare :)

theorem lifecycle (alike : row.Alike σ row') : row.columns.lifecycle = row'.columns.lifecycle :=
  (congrArg Columns.lifecycle alike.columns.bare :)

theorem context (alike : row.Alike σ row') : row.columns.context = row'.columns.context :=
  (congrArg Columns.context alike.columns.bare :)

theorem heldBy (alike : row.Alike σ row') (owner : Option String) :
    Tables.heldBy owner row = Tables.heldBy owner row' := by
  cases owner with
  | none => rfl
  | some owner =>
      have owners := alike.owner
      unfold Tables.heldBy
      cases lease : row.lease <;> cases lease' : row'.lease <;> simp_all

theorem progress (alike : row.Alike σ row') :
    Both (Progress.Like .exactly) row.progress row'.progress := by
  have attempts : row.columns.attempts = row'.columns.attempts :=
    (congrArg Columns.attempts alike.columns.bare :)
  have rounds : row.columns.loopIterations = row'.columns.loopIterations :=
    (congrArg Columns.loopIterations alike.columns.bare :)
  unfold TaskRow.progress
  simp only [alike.context, attempts, rounds]
  cases mappingColumn row'.columns.context with
  | error fault => exact .error fault
  | ok context =>
      cases counterColumn row'.columns.attempts with
      | error fault => exact .error fault
      | ok attempts =>
          cases counterColumn row'.columns.loopIterations with
          | error fault => exact .error fault
          | ok rounds =>
              refine .ok ⟨?_, rfl, alike.columns.lastError, alike.columns.waiting⟩
              have stage := alike.lifecycle
              have places : row.columns.currentStateId = row'.columns.currentStateId :=
                (congrArg Columns.currentStateId alike.columns.bare :)
              have ends : row.columns.terminalStateId = row'.columns.terminalStateId :=
                (congrArg Columns.terminalStateId alike.columns.bare :)
              have count : row.columns.transitionCount = row'.columns.transitionCount :=
                (congrArg Columns.transitionCount alike.columns.bare :)
              simp only [Progress.level, alike.taskId, alike.workflowId, stage, places, ends, count]

end TaskRow.Alike

/-- A run under another name. -/
def RunRow.renamed (σ : String → String) (run : RunRow) : RunRow := { run with runId := σ run.runId }

/-- What a row of the ledger says, and the name of its run. -/
def Transition.told (row : Transition) : Shape × String := (row.shape, row.runId)

/-! ## Tables -/

/-- What belongs to a task is the same in both tables, times and the names of runs, ticks and rows apart;
`σ` gives the names that runs of the first tables have in the second ones. -/
structure Tables.Alike (σ : String → String) (taskId : String) (t t' : Tables) : Prop where
  task : Option.Rel (TaskRow.Alike σ) (t.task? taskId) (t'.task? taskId)
  runs : (t.runsFor taskId).map (RunRow.renamed σ) = t'.runsFor taskId
  rows : (t.rowsFor taskId).map (fun row => (row.shape, σ row.runId)) =
    (t'.rowsFor taskId).map Transition.told

namespace Tables.Alike

variable {σ : String → String} {taskId : String} {t t' : Tables}

/-- Rows of one task are set here and there. -/
theorem setTask (alike : t.Alike σ taskId t') {row row' changed changed' : TaskRow}
    (found : t.task? taskId = some row) (found' : t'.task? taskId = some row')
    (own : changed.taskId = row.taskId) (alike' : changed.Alike σ changed') :
    (t.setTask changed).Alike σ taskId (t'.setTask changed') where
  task := by
    have mine := own.trans (taskId_of_task? found)
    rw [task?_setTask found mine, task?_setTask found' (alike'.taskId ▸ mine)]
    exact .some alike'
  runs := alike.runs
  rows := alike.rows

/-- A task is changed here and there, or in neither. -/
theorem updateIf (alike : t.Alike σ taskId t') {condition condition' : TaskRow → Bool}
    {change change' : TaskRow → TaskRow}
    (agree : ∀ row row', row.Alike σ row' → condition row = condition' row')
    (changes : ∀ row row', row.Alike σ row' → (change row).Alike σ (change' row'))
    (own : ∀ row, (change row).taskId = row.taskId) :
    Option.Rel (Tables.Alike σ taskId) (t.updateIf taskId condition change)
      (t'.updateIf taskId condition' change') := by
  have tasks := alike.task
  unfold Tables.updateIf
  cases found : t.task? taskId with
  | none =>
      rw [found] at tasks
      cases found' : t'.task? taskId with
      | none => exact .none
      | some row' =>
          rw [found'] at tasks
          cases tasks
  | some row =>
      rw [found] at tasks
      cases found' : t'.task? taskId with
      | none =>
          rw [found'] at tasks
          cases tasks
      | some row' =>
          rw [found'] at tasks
          cases tasks with
          | some same =>
              simp only [agree row row' same]
              split
              · exact .some (alike.setTask found found' (own row) (changes row row' same))
              · exact .none

end Tables.Alike

end Tickwork
